import Mathlib.Data.List.Basic
import Mathlib.Tactic.Push

/-!
# Matching uses with their origins

In a history of events some open a key and some close one.  If every closing event
finds its key open, that is, the latest event about the key opened it, then the
closing events map injectively to earlier opening ones (`Matched.injection`): two
closings with one origin would have the earlier of them between the origin and the
later one.
-/

namespace RemoteUnlock.Library

variable {Event Key : Type*} {opens closes : Event → Option Key}

/-- The latest event about a key is an opening one. -/
def LatestOpen (opens closes : Event → Option Key) (key : Key) (origin : Event)
    (history : List Event) : Prop :=
  ∃ before after, history = before ++ origin :: after ∧ opens origin = some key ∧
    ∀ other ∈ after, opens other ≠ some key ∧ closes other ≠ some key

theorem LatestOpen.of_opens {key : Key} {event : Event} (opening : opens event = some key)
    (history : List Event) : LatestOpen opens closes key event (history ++ [event]) :=
  ⟨history, [], rfl, opening, by simp⟩

theorem LatestOpen.append {key : Key} {origin : Event} {history later : List Event}
    (latest : LatestOpen opens closes key origin history)
    (silent : ∀ other ∈ later, opens other ≠ some key ∧ closes other ≠ some key) :
    LatestOpen opens closes key origin (history ++ later) := by
  rcases latest with ⟨before, after, rfl, opening, quiet⟩
  refine ⟨before, after ++ later, by simp, opening, ?_⟩
  intro other membership
  rcases List.mem_append.mp membership with inAfter | inLater
  · exact quiet other inAfter
  · exact silent other inLater

/-- Every closing event finds its key open, by an origin it is related to. -/
def Matched (opens closes : Event → Option Key) (related : Event → Event → Prop)
    (history : List Event) : Prop :=
  ∀ before event after key, history = before ++ event :: after → closes event = some key →
    ∃ origin, LatestOpen opens closes key origin before ∧ related origin event

variable {related : Event → Event → Prop}

@[simp]
theorem matched_nil : Matched opens closes related [] := by
  intro before event after key equality
  simp at equality

theorem Matched.imp {weaker : Event → Event → Prop} {history : List Event}
    (matched : Matched opens closes related history)
    (implies : ∀ origin event, related origin event → weaker origin event) :
    Matched opens closes weaker history := by
  intro before event after key equality closing
  rcases matched before event after key equality closing with ⟨origin, latest, relation⟩
  exact ⟨origin, latest, implies origin event relation⟩

theorem Matched.append_singleton {history : List Event} {event : Event}
    (matched : Matched opens closes related history)
    (last : ∀ key, closes event = some key →
      ∃ origin, LatestOpen opens closes key origin history ∧ related origin event) :
    Matched opens closes related (history ++ [event]) := by
  intro before other after key equality closing
  rcases List.eq_nil_or_concat after with rfl | ⟨middle, final, rfl⟩
  · have parts := List.append_inj' equality rfl
    simp only [List.cons.injEq, and_true] at parts
    rw [← parts.1]
    rw [← parts.2] at closing ⊢
    exact last key closing
  · rw [List.concat_eq_append, ← List.cons_append, ← List.append_assoc] at equality
    have parts := List.append_inj' equality rfl
    exact matched before other middle key parts.1 closing

/-- Events that close nothing add nothing to be matched. -/
theorem Matched.append {history later : List Event}
    (matched : Matched opens closes related history)
    (silent : ∀ event ∈ later, closes event = none) :
    Matched opens closes related (history ++ later) := by
  induction later generalizing history with
  | nil => simpa using matched
  | cons event later inductionHypothesis =>
      rw [List.forall_mem_cons] at silent
      have extended : Matched opens closes related (history ++ [event]) := by
        apply matched.append_singleton
        intro key closing
        rw [silent.1] at closing
        contradiction
      have whole := inductionHypothesis extended silent.2
      rwa [List.append_assoc, List.singleton_append] at whole

theorem getElem?_append_cons {before after : List Event} {event : Event} :
    (before ++ event :: after)[before.length]? = some event := by
  simp

/-- The origin of each closing event, as a position in the history. -/
theorem Matched.origin {history : List Event} (matched : Matched opens closes related history)
    {position : ℕ} {event : Event} {key : Key} (found : history[position]? = some event)
    (closing : closes event = some key) :
    ∃ source origin, source < position ∧ history[source]? = some origin ∧
      opens origin = some key ∧ related origin event ∧
      ∀ (between : ℕ) (other : Event), source < between → between < position →
        history[between]? = some other → opens other ≠ some key ∧ closes other ≠ some key := by
  rcases List.getElem?_eq_some_iff.mp found with ⟨bound, value⟩
  have split : history = history.take position ++ event :: history.drop (position + 1) := by
    rw [← value, ← List.drop_eq_getElem_cons bound, List.take_append_drop]
  rcases matched _ _ _ key split closing with
    ⟨origin, ⟨before, after, taken, opening, quiet⟩, relation⟩
  have length : before.length + 1 + after.length = position := by
    have lengths := congrArg List.length taken
    simp only [List.length_take, List.length_append, List.length_cons] at lengths
    omega
  have whole : history = before ++ origin :: (after ++ event :: history.drop (position + 1)) := by
    conv_lhs => rw [split, taken]
    simp
  refine ⟨before.length, origin, by omega, ?_, opening, relation, ?_⟩
  · rw [whole]
    exact getElem?_append_cons
  · intro between other behind ahead inHistory
    apply quiet other
    rw [whole, List.getElem?_append_right (by omega)] at inHistory
    obtain ⟨offset, shifted⟩ : ∃ offset, between - before.length = offset + 1 :=
      Nat.exists_eq_succ_of_ne_zero (by omega)
    rw [shifted, List.getElem?_cons_succ, List.getElem?_append_left (by omega)] at inHistory
    exact List.mem_of_getElem? inHistory

/-- The closing events map injectively to earlier opening events of the same key. -/
theorem Matched.injection {history : List Event} (matched : Matched opens closes related history) :
    ∃ origin : ℕ → ℕ,
      (∀ (position : ℕ) (event : Event) (key : Key), history[position]? = some event →
        closes event = some key →
          origin position < position ∧ ∃ opening, history[origin position]? = some opening ∧
            opens opening = some key ∧ related opening event) ∧
      ∀ (first second : ℕ) (firstEvent secondEvent : Event) (firstKey secondKey : Key),
        history[first]? = some firstEvent → closes firstEvent = some firstKey →
        history[second]? = some secondEvent → closes secondEvent = some secondKey →
        origin first = origin second → first = second := by
  classical
  have choice : ∀ position : ℕ, ∃ source : ℕ, ∀ event key, history[position]? = some event →
      closes event = some key → source < position ∧
        (∃ opening, history[source]? = some opening ∧ opens opening = some key ∧
          related opening event) ∧
        ∀ (between : ℕ) (other : Event), source < between → between < position →
          history[between]? = some other → closes other ≠ some key := by
    intro position
    by_cases isClosing : ∃ event key, history[position]? = some event ∧ closes event = some key
    · rcases isClosing with ⟨event, key, found, closing⟩
      rcases matched.origin found closing with
        ⟨source, origin, earlier, inHistory, opening, relation, quiet⟩
      refine ⟨source, ?_⟩
      intro other otherKey otherFound otherClosing
      rw [found, Option.some.injEq] at otherFound
      subst otherFound
      rw [closing, Option.some.injEq] at otherClosing
      subst otherClosing
      exact ⟨earlier, ⟨origin, inHistory, opening, relation⟩,
        fun between other behind ahead there => (quiet between other behind ahead there).2⟩
    · refine ⟨0, ?_⟩
      intro event key found closing
      exact (isClosing ⟨event, key, found, closing⟩).elim
  choose origin specification using choice
  refine ⟨origin, ?_, ?_⟩
  · intro position event key found closing
    rcases specification position event key found closing with ⟨earlier, opening, _⟩
    exact ⟨earlier, opening⟩
  · intro first second firstEvent secondEvent firstKey secondKey firstFound firstCloses
      secondFound secondCloses same
    rcases specification first _ _ firstFound firstCloses with
      ⟨firstEarlier, ⟨opening, openingFound, opensFirst, _⟩, firstQuiet⟩
    rcases specification second _ _ secondFound secondCloses with
      ⟨secondEarlier, ⟨other, otherFound, opensSecond, _⟩, secondQuiet⟩
    rw [same, otherFound, Option.some.injEq] at openingFound
    subst openingFound
    rw [opensFirst, Option.some.injEq] at opensSecond
    subst opensSecond
    rcases Nat.lt_trichotomy first second with before | equal | behind
    · exact (secondQuiet first firstEvent (by omega) before firstFound firstCloses).elim
    · exact equal
    · exact (firstQuiet second secondEvent (by omega) behind secondFound secondCloses).elim

/-- Where every origin of a second kind of closing event is itself a closing event of the first
kind, the closing events of the second kind map injectively to opening events of the first. -/
theorem Matched.injection_trans {OtherKey : Type*}
    {otherOpens otherCloses : Event → Option OtherKey} {otherRelated : Event → Event → Prop}
    {history : List Event}
    (matched : Matched opens closes related history)
    (others : Matched otherOpens otherCloses otherRelated history)
    (links : ∀ origin event, otherRelated origin event → ∃ key, closes origin = some key) :
    ∃ origin : ℕ → ℕ,
      (∀ (position : ℕ) (event : Event) (key : OtherKey), history[position]? = some event →
        otherCloses event = some key → origin position < position ∧ ∃ middle opening,
          middle ∈ history ∧ otherRelated middle event ∧
            history[origin position]? = some opening ∧ related opening middle) ∧
      ∀ (first second : ℕ) (firstEvent secondEvent : Event) (firstKey secondKey : OtherKey),
        history[first]? = some firstEvent → otherCloses firstEvent = some firstKey →
        history[second]? = some secondEvent → otherCloses secondEvent = some secondKey →
        origin first = origin second → first = second := by
  obtain ⟨inner, innerFound, innerInjective⟩ := matched.injection
  obtain ⟨outer, outerFound, outerInjective⟩ := others.injection
  refine ⟨inner ∘ outer, ?_, ?_⟩
  · intro position event key found closing
    obtain ⟨earlier, middle, isMiddle, _, relation⟩ := outerFound position event key found closing
    obtain ⟨middleKey, closes⟩ := links middle event relation
    obtain ⟨before, opening, isOpening, _, opened⟩ :=
      innerFound (outer position) middle middleKey isMiddle closes
    exact ⟨Nat.lt_trans before earlier, middle, opening, List.mem_of_getElem? isMiddle, relation,
      isOpening, opened⟩
  · intro first second firstEvent secondEvent firstKey secondKey firstFound firstCloses
      secondFound secondCloses same
    obtain ⟨_, firstMiddle, isFirst, _, firstRelation⟩ :=
      outerFound first _ _ firstFound firstCloses
    obtain ⟨_, secondMiddle, isSecond, _, secondRelation⟩ :=
      outerFound second _ _ secondFound secondCloses
    obtain ⟨firstMiddleKey, firstMiddleCloses⟩ := links _ _ firstRelation
    obtain ⟨secondMiddleKey, secondMiddleCloses⟩ := links _ _ secondRelation
    have sameMiddle := innerInjective _ _ _ _ _ _ isFirst firstMiddleCloses isSecond
      secondMiddleCloses same
    exact outerInjective first second _ _ _ _ firstFound firstCloses secondFound secondCloses
      sameMiddle

end RemoteUnlock.Library
