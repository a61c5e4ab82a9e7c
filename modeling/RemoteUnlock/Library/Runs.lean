import Mathlib.Data.List.Basic

/-!
# Runs of a transition system

A system is a function from a state and a label to the next state; a label that
does not apply leaves the state as it is.  What every step keeps, every run keeps;
where a step needs a condition on the state and the label, the run needs it all
along (`Along`); what is left behind by one step has had this step (`Sometime`).
-/

namespace RemoteUnlock.Library

variable {State Label : Type*} (step : State → Label → State)

/-- The state after a sequence of labels. -/
def run (state : State) (labels : List Label) : State := labels.foldl step state

@[simp]
theorem run_nil (state : State) : run step state [] = state := rfl

@[simp]
theorem run_cons (state : State) (label : Label) (labels : List Label) :
    run step state (label :: labels) = run step (step state label) labels := rfl

theorem run_append (state : State) (first second : List Label) :
    run step state (first ++ second) = run step (run step state first) second :=
  List.foldl_append

/-- A condition on every step of a run. -/
def Along (condition : State → Label → Prop) : State → List Label → Prop
  | _, [] => True
  | state, label :: labels => condition state label ∧ Along condition (step state label) labels

variable {step}

/-- An invariant of the steps is an invariant of the runs. -/
theorem run_invariant {invariant : State → Prop}
    (keeps : ∀ state label, invariant state → invariant (step state label))
    {state : State} (start : invariant state) (labels : List Label) :
    invariant (run step state labels) := by
  induction labels generalizing state with
  | nil => exact start
  | cons label labels inductionHypothesis =>
      exact inductionHypothesis (keeps state label start)

/-- The same where the steps keep it under a condition. -/
theorem run_invariant_along {invariant : State → Prop} {condition : State → Label → Prop}
    (keeps : ∀ state label, invariant state → condition state label →
      invariant (step state label))
    {state : State} (start : invariant state) {labels : List Label}
    (along : Along step condition state labels) : invariant (run step state labels) := by
  induction labels generalizing state with
  | nil => exact start
  | cons label labels inductionHypothesis =>
      exact inductionHypothesis (keeps state label start along.1) along.2

/-- What the steps leave the same, the runs do. -/
theorem run_same {Value : Type*} (value : State → Value)
    (same : ∀ state label, value (step state label) = value state)
    (state : State) (labels : List Label) : value (run step state labels) = value state :=
  run_invariant (fun current label equal => (same current label).trans equal) rfl labels

/-- An invariant that the steps keep under a condition gives what follows from it all along. -/
theorem Along.of_invariant {invariant : State → Prop} {condition result : State → Label → Prop}
    (keeps : ∀ state label, invariant state → condition state label →
      invariant (step state label))
    (gives : ∀ state label, invariant state → condition state label → result state label)
    {state : State} (start : invariant state) {labels : List Label}
    (along : Along step condition state labels) : Along step result state labels := by
  induction labels generalizing state with
  | nil => trivial
  | cons label labels inductionHypothesis =>
      exact ⟨gives state label start along.1,
        inductionHypothesis (keeps state label start along.1) along.2⟩

/-- A property that holds after a step exactly if it has held before and the step meets a
condition holds after a run exactly if it has held at the start and the condition all along. -/
theorem run_iff_along {invariant property : State → Prop} {condition : State → Label → Prop}
    (keeps : ∀ state label, invariant state → invariant (step state label))
    (steps : ∀ state label, invariant state →
      (property (step state label) ↔ property state ∧ condition state label))
    {state : State} (start : invariant state) (labels : List Label) :
    property (run step state labels) ↔
      property state ∧ Along step condition state labels := by
  induction labels generalizing state with
  | nil => exact (and_iff_left trivial).symm
  | cons label labels inductionHypothesis =>
      rw [run_cons, inductionHypothesis (keeps state label start), steps state label start, Along,
        and_assoc]

theorem Along.of_mem {condition : State → Label → Prop} {labels : List Label}
    (holds : ∀ state, ∀ label ∈ labels, condition state label) (state : State) :
    Along step condition state labels := by
  induction labels generalizing state with
  | nil => trivial
  | cons label labels inductionHypothesis =>
      rw [Along]
      exact ⟨holds state label List.mem_cons_self, inductionHypothesis
        (fun other next membership => holds other next (List.mem_cons_of_mem _ membership)) _⟩

theorem Along.and {condition other : State → Label → Prop} {state : State} {labels : List Label}
    (along : Along step condition state labels) (rest : Along step other state labels) :
    Along step (fun state label => condition state label ∧ other state label) state labels := by
  induction labels generalizing state with
  | nil => trivial
  | cons label labels inductionHypothesis =>
      exact ⟨⟨along.1, rest.1⟩, inductionHypothesis along.2 rest.2⟩

theorem Along.of_forall {condition : State → Label → Prop}
    (holds : ∀ state label, condition state label) (state : State) (labels : List Label) :
    Along step condition state labels :=
  Along.of_mem (fun state label _ => holds state label) state

theorem Along.imp {condition weaker : State → Label → Prop} {state : State} {labels : List Label}
    (along : Along step condition state labels)
    (implies : ∀ state, ∀ label ∈ labels, condition state label → weaker state label) :
    Along step weaker state labels := by
  induction labels generalizing state with
  | nil => trivial
  | cons label labels inductionHypothesis =>
      refine ⟨implies state label List.mem_cons_self along.1, inductionHypothesis along.2 ?_⟩
      exact fun other next membership => implies other next (List.mem_cons_of_mem _ membership)

instance Along.decidable (condition : State → Label → Prop)
    [∀ state label, Decidable (condition state label)] :
    ∀ state labels, Decidable (Along step condition state labels)
  | _, [] => isTrue trivial
  | state, label :: labels =>
      @instDecidableAnd _ _ _ (Along.decidable condition (step state label) labels)

theorem Along.append {condition : State → Label → Prop} {state : State}
    {first second : List Label} :
    Along step condition state (first ++ second) ↔
      Along step condition state first ∧
        Along step condition (run step state first) second := by
  induction first generalizing state with
  | nil => simp [Along]
  | cons label first inductionHypothesis =>
      simp only [List.cons_append, Along, inductionHypothesis, run_cons, and_assoc]

/-! ## Some step of a run -/

/-- A condition on some step of a run. -/
def Sometime (step : State → Label → State) (condition : State → Label → Prop) :
    State → List Label → Prop
  | _, [] => False
  | state, label :: labels =>
      condition state label ∨ Sometime step condition (step state label) labels

theorem sometime_append {condition : State → Label → Prop} {state : State}
    {first second : List Label} :
    Sometime step condition state (first ++ second) ↔
      Sometime step condition state first ∨
        Sometime step condition (run step state first) second := by
  induction first generalizing state with
  | nil => simp [Sometime]
  | cons label first inductionHypothesis =>
      simp only [List.cons_append, Sometime, inductionHypothesis, run_cons, or_assoc]

/-- One of the earlier steps, or the last. -/
theorem sometime_snoc {condition : State → Label → Prop} {state : State}
    {labels : List Label} {label : Label} :
    Sometime step condition state (labels ++ [label]) ↔
      Sometime step condition state labels ∨ condition (run step state labels) label := by
  simp [sometime_append, Sometime]

/-! ## A part of a system -/

section Parts

variable {Part Move : Type*} {partStep : Part → Move → Part} {part : State → Part}
  {moves : Label → Option Move}

/-- A part of a system that some labels move and the others leave runs by itself. -/
theorem part_run
    (moved : ∀ state label move, moves label = some move →
      part (step state label) = partStep (part state) move)
    (left : ∀ state label, moves label = none → part (step state label) = part state)
    (state : State) (labels : List Label) :
    part (run step state labels) = run partStep (part state) (labels.filterMap moves) := by
  induction labels generalizing state with
  | nil => rfl
  | cons label labels inductionHypothesis =>
      rw [run_cons, inductionHypothesis, List.filterMap_cons]
      cases isMove : moves label with
      | none => rw [left state label isMove]
      | some move => rw [moved state label move isMove, run_cons]

/-- A condition on the moves of the part holds along its run. -/
theorem part_along {condition : State → Label → Prop} {partCondition : Part → Move → Prop}
    (moved : ∀ state label move, moves label = some move →
      part (step state label) = partStep (part state) move)
    (left : ∀ state label, moves label = none → part (step state label) = part state)
    (implies : ∀ state label move, moves label = some move → condition state label →
      partCondition (part state) move)
    {state : State} {labels : List Label} (along : Along step condition state labels) :
    Along partStep partCondition (part state) (labels.filterMap moves) := by
  induction labels generalizing state with
  | nil => trivial
  | cons label labels inductionHypothesis =>
      have rest := inductionHypothesis along.2
      rw [List.filterMap_cons]
      cases isMove : moves label with
      | none =>
          rw [left state label isMove] at rest
          exact rest
      | some move =>
          rw [moved state label move isMove] at rest
          exact ⟨implies state label move isMove along.1, rest⟩

end Parts

end RemoteUnlock.Library
