import RemoteUnlock.Library.Runs

/-!
# Unwinding

An observer sees some steps of a system and not the others, and something of the state at
those it sees.  If the steps it does not see change nothing it could tell, and the steps it
sees are taken alike in states it cannot tell apart, then two runs of which it sees the same
going in show it the same coming out.
-/

namespace RemoteUnlock.Library

variable {State Label Seen : Type*} (step : State → Label → State)

/-- What is seen of a run. -/
def observed (see : State → Label → Option Seen) : State → List Label → List Seen
  | _, [] => []
  | state, label :: labels =>
      match see state label with
      | some seen => seen :: observed see (step state label) labels
      | none => observed see (step state label) labels

variable {step}

theorem observed_cons_some {see : State → Label → Option Seen} {state : State} {label : Label}
    {seen : Seen} (isSeen : see state label = some seen) (labels : List Label) :
    observed step see state (label :: labels) =
      seen :: observed step see (step state label) labels := by
  rw [observed, isSeen]

theorem observed_cons_none {see : State → Label → Option Seen} {state : State} {label : Label}
    (hidden : see state label = none) (labels : List Label) :
    observed step see state (label :: labels) = observed step see (step state label) labels := by
  rw [observed, hidden]

theorem observed_append (see : State → Label → Option Seen) (state : State)
    (first second : List Label) :
    observed step see state (first ++ second) =
      observed step see state first ++ observed step see (run step state first) second := by
  induction first generalizing state with
  | nil => rfl
  | cons label first inductionHypothesis =>
      rw [List.cons_append, observed, inductionHypothesis, run_cons, observed]
      cases see state label <;> rfl

/-- A run in which every label is seen as it is. -/
theorem observed_of_along {see : State → Label → Option Label} {state : State}
    {labels : List Label} (seen : Along step (fun state label => see state label = some label)
      state labels) : observed step see state labels = labels := by
  induction labels generalizing state with
  | nil => rfl
  | cons label labels inductionHypothesis =>
      rw [observed_cons_some seen.1, inductionHypothesis seen.2]

theorem observed_of_hidden {see : State → Label → Option Seen} {state : State}
    {labels : List Label} (hidden : Along step (fun state label => see state label = none)
      state labels) : observed step see state labels = [] := by
  induction labels generalizing state with
  | nil => rfl
  | cons label labels inductionHypothesis =>
      rw [observed_cons_none hidden.1, inductionHypothesis hidden.2]

/-- A measure that every step that is seen raises by one, and no other step changes, counts
them. -/
theorem measure_run {see : State → Label → Option Seen} {measure : State → ℕ}
    {invariant : State → Prop} {condition : State → Label → Prop}
    (keeps : ∀ state label, invariant state → condition state label →
      invariant (step state label))
    (seen : ∀ state label, invariant state → condition state label →
      (see state label).isSome → measure (step state label) = measure state + 1)
    (hidden : ∀ state label, invariant state → condition state label →
      see state label = none → measure (step state label) = measure state)
    {state : State} (start : invariant state) {labels : List Label}
    (along : Along step condition state labels) :
    measure (run step state labels) =
      measure state + (observed step see state labels).length := by
  induction labels generalizing state with
  | nil => rfl
  | cons label labels inductionHypothesis =>
      obtain ⟨here, later⟩ := along
      rw [run_cons, inductionHypothesis (keeps state label start here) later]
      cases isSeen : see state label with
      | some value =>
          rw [seen state label start here (by rw [isSeen]; rfl), observed_cons_some isSeen,
            List.length_cons]
          omega
      | none => rw [hidden state label start here isSeen, observed_cons_none isSeen]

/-- States an observer cannot tell apart, for steps that keep to what is asked of them. -/
structure Unwinding (step : State → Label → State) (asked : State → Label → Prop)
    {Input Output : Type*} (input : State → Label → Option Input)
    (output : State → Label → Option Output) (alike : State → State → Prop) : Prop where
  symm : ∀ {left right}, alike left right → alike right left
  hidden : ∀ {left right label}, alike left right → asked left label → input left label = none →
    alike (step left label) right ∧ output left label = none
  seen : ∀ {left right first second}, alike left right → asked left first → asked right second →
    (input left first).isSome → input left first = input right second →
      alike (step left first) (step right second) ∧ output left first = output right second

namespace Unwinding

variable {asked : State → Label → Prop} {Input Output : Type*}
  {input : State → Label → Option Input} {output : State → Label → Option Output}
  {alike : State → State → Prop}

/-- A step that is not seen goes in silence and comes out in silence. -/
theorem skip (unwinding : Unwinding step asked input output alike) {left right : State}
    {label : Label} (same : alike left right) (keeps : asked left label)
    (hidden : input left label = none) (labels : List Label) :
    alike (step left label) right ∧
      observed step input left (label :: labels) = observed step input (step left label) labels ∧
      observed step output left (label :: labels) =
        observed step output (step left label) labels := by
  obtain ⟨after, silent⟩ := unwinding.hidden same keeps hidden
  exact ⟨after, observed_cons_none hidden labels, observed_cons_none silent labels⟩

/-- A run in which nothing is seen. -/
theorem silent (unwinding : Unwinding step asked input output alike) {left right : State}
    {labels : List Label} (same : alike left right) (keeps : Along step asked left labels)
    (nothing : observed step input left labels = []) :
    alike (run step left labels) right ∧ observed step output left labels = [] := by
  induction labels generalizing left with
  | nil => exact ⟨same, rfl⟩
  | cons label labels inductionHypothesis =>
      cases isSeen : input left label with
      | some seen =>
          rw [observed_cons_some isSeen] at nothing
          contradiction
      | none =>
          obtain ⟨after, inputs, outputs⟩ := unwinding.skip same keeps.1 isSeen labels
          rw [inputs] at nothing
          rw [outputs]
          exact inductionHypothesis after keeps.2 nothing

/-- A run up to the first step that is seen, and past it. -/
theorem next (unwinding : Unwinding step asked input output alike) {left right : State}
    {first : Label} {seen : Input} {labels : List Label} {rest : List Input}
    (same : alike left right) (keepsFirst : asked left first)
    (isSeen : input left first = some seen)
    (keeps : Along step asked right labels)
    (sees : observed step input right labels = seen :: rest) :
    ∃ middle, ∃ others : List Label, alike (step left first) middle ∧
      Along step asked middle others ∧ observed step input middle others = rest ∧
      run step middle others = run step right labels ∧
      observed step output right labels =
        (output left first).toList ++ observed step output middle others := by
  induction labels generalizing right with
  | nil => contradiction
  | cons second labels inductionHypothesis =>
      cases isInput : input right second with
      | none =>
          obtain ⟨after, inputs, outputs⟩ :=
            unwinding.skip (unwinding.symm same) keeps.1 isInput labels
          rw [inputs] at sees
          rw [outputs, run_cons]
          exact inductionHypothesis (unwinding.symm after) keeps.2 sees
      | some other =>
          rw [observed_cons_some isInput] at sees
          obtain ⟨rfl, tail⟩ := List.cons.inj sees
          obtain ⟨after, outputs⟩ := unwinding.seen same keepsFirst keeps.1
            (Option.isSome_of_eq_some isSeen) (isSeen.trans isInput.symm)
          refine ⟨step right second, labels, after, keeps.2, tail, rfl, ?_⟩
          rw [outputs, observed]
          cases output right second <;> rfl

/-- Runs of which the same is seen going in show the same coming out. -/
theorem runs (unwinding : Unwinding step asked input output alike) {left right : State}
    {first second : List Label} (same : alike left right) (keeps : Along step asked left first)
    (otherKeeps : Along step asked right second)
    (inputs : observed step input left first = observed step input right second) :
    alike (run step left first) (run step right second) ∧
      observed step output left first = observed step output right second := by
  induction first generalizing left right second with
  | nil =>
      obtain ⟨after, nothing⟩ := unwinding.silent (unwinding.symm same) otherKeeps inputs.symm
      exact ⟨unwinding.symm after, nothing.symm⟩
  | cons label labels inductionHypothesis =>
      cases isSeen : input left label with
      | none =>
          obtain ⟨after, silence, outputs⟩ := unwinding.skip same keeps.1 isSeen labels
          rw [silence] at inputs
          rw [outputs, run_cons]
          exact inductionHypothesis after keeps.2 otherKeeps inputs
      | some seen =>
          rw [observed_cons_some isSeen] at inputs
          obtain ⟨middle, others, after, alongOthers, tail, sameEnd, outputs⟩ :=
            unwinding.next same keeps.1 isSeen otherKeeps inputs.symm
          obtain ⟨alike, sameOutputs⟩ :=
            inductionHypothesis after keeps.2 alongOthers tail.symm
          rw [run_cons, ← sameEnd, outputs, ← sameOutputs]
          refine ⟨alike, ?_⟩
          rw [observed]
          cases output left label <;> rfl

end Unwinding

end RemoteUnlock.Library
