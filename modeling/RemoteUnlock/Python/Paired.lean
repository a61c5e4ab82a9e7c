import RemoteUnlock.Python.Exec

/-!
# Two programs that run alike

`Paired relation related first second left right` compares the run of one program from one
state with the run of another from another: both return related values, or both raise the
same exception, and the states they leave are related.  Like `Keeps` it is proved statement
by statement.
-/

namespace RemoteUnlock.Python.Py

variable {σ τ α β γ δ : Type}

/-- Both are related values, or the same exception. -/
inductive SameOutcome (related : α → β → Prop) : Except PyExc α → Except PyExc β → Prop where
  | ok {one : α} {other : β} (holds : related one other) :
      SameOutcome related (.ok one) (.ok other)
  | error (exc : PyExc) : SameOutcome related (.error exc) (.error exc)

theorem SameOutcome.refl (result : Except PyExc α) : SameOutcome Eq result result := by
  cases result with
  | ok value => exact .ok rfl
  | error exc => exact .error exc

theorem SameOutcome.imp {related weaker : α → β → Prop} {first : Except PyExc α}
    {second : Except PyExc β} (same : SameOutcome related first second)
    (implies : ∀ one other, related one other → weaker one other) :
    SameOutcome weaker first second := by
  cases same with
  | ok holds => exact .ok (implies _ _ holds)
  | error exc => exact .error exc

/-- The runs of two programs from two states. -/
structure Paired (relation : σ → τ → Prop) (related : α → β → Prop) (first : Py σ α)
    (second : Py τ β) (left : σ) (right : τ) : Prop where
  outcomes : SameOutcome related (first left).1 (second right).1
  states : relation (first left).2 (second right).2

section Rules

variable {relation : σ → τ → Prop} {related : α → β → Prop} {left : σ} {right : τ}

/-- Nothing but the two runs matters. -/
theorem Paired.of_runs {first : Py σ α} {second : Py τ β} {other : Py σ α} {another : Py τ β}
    {before : σ} {start : τ} (sameFirst : first left = other before)
    (sameSecond : second right = another start)
    (paired : Paired relation related other another before start) :
    Paired relation related first second left right :=
  ⟨by rw [sameFirst, sameSecond]; exact paired.outcomes,
    by rw [sameFirst, sameSecond]; exact paired.states⟩

theorem Paired.imp {weaker : α → β → Prop} {first : Py σ α} {second : Py τ β}
    (paired : Paired relation related first second left right)
    (implies : ∀ one other, related one other → weaker one other) :
    Paired relation weaker first second left right :=
  ⟨paired.outcomes.imp implies, paired.states⟩

theorem Paired.pure {one : α} {other : β} (holds : related one other)
    (states : relation left right) :
    Paired relation related (Pure.pure one) (Pure.pure other) left right :=
  ⟨.ok holds, states⟩

theorem Paired.raise (exc : PyExc) (states : relation left right) :
    Paired relation related (Py.raise exc) (Py.raise exc) left right :=
  ⟨.error exc, states⟩

theorem Paired.read {view : σ → α} {other : τ → β} (holds : related (view left) (other right))
    (states : relation left right) :
    Paired relation related (Py.read view) (Py.read other) left right :=
  ⟨.ok holds, states⟩

theorem Paired.ofExcept (result : Except PyExc α) (states : relation left right) :
    Paired relation Eq (Py.ofExcept result) (Py.ofExcept result) left right :=
  ⟨.refl result, states⟩

theorem Paired.modify {change : σ → σ} {other : τ → τ}
    (states : relation (change left) (other right)) :
    Paired relation Eq (Py.modify change) (Py.modify other) left right :=
  ⟨.ok rfl, states⟩

theorem Paired.raiseIf (raises : Option PyExc) (states : relation left right) :
    Paired relation Eq (Py.raiseIf raises) (Py.raiseIf raises) left right := by
  cases raises with
  | none => exact ⟨.ok rfl, states⟩
  | some exc => exact ⟨.error exc, states⟩

/-- What comes next starts where the first programs have got to. -/
theorem Paired.bind_ran {final : γ → δ → Prop} {first : Py σ α} {second : Py τ β}
    {next : α → Py σ γ} {other : β → Py τ δ}
    (paired : Paired relation related first second left right)
    (continues : ∀ one another middle between, first left = (.ok one, middle) →
      second right = (.ok another, between) → related one another → relation middle between →
      Paired relation final (next one) (other another) middle between) :
    Paired relation final (first >>= next) (second >>= other) left right := by
  obtain ⟨outcomes, states⟩ := paired
  rcases ranFirst : first left with ⟨one, middle⟩
  rcases ranSecond : second right with ⟨another, between⟩
  rw [ranFirst, ranSecond] at outcomes states
  cases outcomes with
  | ok holds =>
      exact .of_runs (bind_of_ok ranFirst) (bind_of_ok ranSecond)
        (continues _ _ middle between ranFirst ranSecond holds states)
  | error exc =>
      constructor
      · rw [bind_of_error ranFirst, bind_of_error ranSecond]
        exact .error exc
      · rwa [bind_of_error ranFirst, bind_of_error ranSecond]

theorem Paired.bind {final : γ → δ → Prop} {first : Py σ α} {second : Py τ β}
    {next : α → Py σ γ} {other : β → Py τ δ}
    (paired : Paired relation related first second left right)
    (continues : ∀ one another middle between, related one another → relation middle between →
      Paired relation final (next one) (other another) middle between) :
    Paired relation final (first >>= next) (second >>= other) left right :=
  paired.bind_ran fun one another middle between _ _ => continues one another middle between

theorem Paired.tryExcept {first : Py σ α} {second : Py τ β} {handler : PyExc → Py σ α}
    {other : PyExc → Py τ β} (paired : Paired relation related first second left right)
    (recovers : ∀ exc middle between, relation middle between →
      Paired relation related (handler exc) (other exc) middle between) :
    Paired relation related (Py.tryExcept first handler) (Py.tryExcept second other) left
      right := by
  obtain ⟨outcomes, states⟩ := paired
  rcases ranFirst : first left with ⟨one, middle⟩
  rcases ranSecond : second right with ⟨another, between⟩
  rw [ranFirst, ranSecond] at outcomes states
  cases outcomes with
  | @ok one another holds =>
      have returns : Paired relation related (fun _ => (.ok one, middle))
          (fun _ => (.ok another, between)) left right := ⟨.ok holds, states⟩
      exact .of_runs (by rw [Py.tryExcept, ranFirst]) (by rw [Py.tryExcept, ranSecond]) returns
  | error exc =>
      exact .of_runs (by rw [Py.tryExcept, ranFirst]) (by rw [Py.tryExcept, ranSecond])
        (recovers exc middle between states)

end Rules

end RemoteUnlock.Python.Py
