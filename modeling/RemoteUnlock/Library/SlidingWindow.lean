import Mathlib.Algebra.Order.Field.Basic
import Mathlib.Data.List.Basic
import Mathlib.Tactic.Linarith

/-!
# Sliding windows over recorded times

Times are recorded in order.  Dropping the old ones from the front leaves those within a
window before the present (`dropWhile_eq_recent`).  Where a time is only recorded while
fewer than a limit lie within the window before it, no interval as long as the window
holds more than the limit (`Admissible.within_le`).
-/

namespace RemoteUnlock.Library

variable {Time : Type*} [Field Time] [LinearOrder Time] [IsStrictOrderedRing Time]

/-- The times that lie at most `window` before `now`. -/
def recent (window now : Time) (times : List Time) : List Time :=
  times.filter fun time => now - time ≤ window

/-- The times in the closed interval of length `window` from `start`. -/
def within (window start : Time) (times : List Time) : List Time :=
  times.filter fun time => start ≤ time ∧ time ≤ start + window

/-- Each time was recorded while fewer than `limit` earlier ones were recent. -/
inductive Admissible (window : Time) (limit : ℕ) : List Time → Prop where
  | nil : Admissible window limit []
  | append {times : List Time} {now : Time} : Admissible window limit times →
      (∀ time ∈ times, time ≤ now) → (recent window now times).length < limit →
      Admissible window limit (times ++ [now])

variable {window now : Time} {times : List Time}

omit [IsStrictOrderedRing Time] in
theorem recent_append (first second : List Time) :
    recent window now (first ++ second) = recent window now first ++ recent window now second :=
  List.filter_append first second

/-- What is recent later was recent before. -/
theorem recent_recent {earlier : Time} (order : earlier ≤ now) (times : List Time) :
    recent window now (recent window earlier times) = recent window now times := by
  unfold recent
  rw [List.filter_filter]
  apply List.filter_congr
  intro time _
  rw [Bool.eq_iff_iff, Bool.and_eq_true, decide_eq_true_eq, decide_eq_true_eq]
  constructor
  · exact fun both => both.1
  · exact fun late => ⟨late, (sub_le_sub_right order time).trans late⟩

/-- The old times stand at the front. -/
theorem dropWhile_eq_recent (sorted : times.Pairwise (· ≤ ·)) :
    times.dropWhile (fun time => decide (window < now - time)) = recent window now times := by
  induction times with
  | nil => rfl
  | cons first rest inductionHypothesis =>
      rw [List.pairwise_cons] at sorted
      by_cases old : window < now - first
      · rw [List.dropWhile_cons, if_pos (decide_eq_true old), inductionHypothesis sorted.2, recent,
          recent, List.filter_cons_of_neg (by rwa [decide_eq_true_eq, not_le])]
      · rw [List.dropWhile_cons, if_neg (by rwa [decide_eq_true_eq]), recent,
          List.filter_eq_self.mpr]
        intro time membership
        have later : first ≤ time := by
          rcases List.mem_cons.mp membership with rfl | behind
          · exact le_rfl
          · exact sorted.1 time behind
        rw [decide_eq_true_eq]
        exact (sub_le_sub_left later now).trans (not_lt.mp old)

/-- All that an interval holds is recent when its last time is recorded. -/
theorem within_length_le_recent {start : Time} (reached : now ≤ start + window)
    (times : List Time) :
    (within window start times).length ≤ (recent window now times).length := by
  apply List.Sublist.length_le
  apply List.monotone_filter_right
  intro time inside
  rw [decide_eq_true_eq] at inside ⊢
  linarith [inside.1]

omit [IsStrictOrderedRing Time] in
theorem Admissible.sorted {limit : ℕ} (admissible : Admissible window limit times) :
    times.Pairwise (· ≤ ·) := by
  induction admissible with
  | nil => exact List.Pairwise.nil
  | append _ order _ inductionHypothesis =>
      rw [List.pairwise_append]
      refine ⟨inductionHypothesis, List.pairwise_singleton _ _, ?_⟩
      intro time membership other isNow
      rw [List.mem_singleton.mp isNow]
      exact order time membership

/-- No interval as long as the window holds more times than the limit. -/
theorem Admissible.within_le {limit : ℕ} (admissible : Admissible window limit times)
    (start : Time) : (within window start times).length ≤ limit := by
  induction admissible with
  | nil => exact Nat.zero_le limit
  | @append times now _ _ few inductionHypothesis =>
      rw [within, List.filter_append, List.length_append]
      by_cases inside : start ≤ now ∧ now ≤ start + window
      · have before := within_length_le_recent inside.2 times
        rw [List.filter_cons_of_pos (by simpa using inside), List.filter_nil]
        exact (Nat.add_le_add_right before 1).trans few
      · rw [List.filter_cons_of_neg (by simpa using inside), List.filter_nil]
        exact inductionHypothesis

/-- Where no time is later, the recent ones are those of the interval that ends now. -/
theorem Admissible.recent_le {limit : ℕ} (admissible : Admissible window limit times)
    (past : ∀ time ∈ times, time ≤ now) : (recent window now times).length ≤ limit := by
  apply le_trans _ (admissible.within_le (now - window))
  apply le_of_eq
  unfold recent within
  congr 1
  apply List.filter_congr
  intro time membership
  rw [Bool.eq_iff_iff, decide_eq_true_eq, decide_eq_true_eq, sub_add_cancel, sub_le_comm]
  exact ⟨fun close => ⟨close, past time membership⟩, fun both => both.1⟩

end RemoteUnlock.Library
