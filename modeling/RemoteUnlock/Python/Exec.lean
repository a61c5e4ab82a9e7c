import Mathlib.Order.Defs.Unbundled
import RemoteUnlock.Python.Text

/-!
# Programs that raise

A `Py` program changes a state and ends with a value or an exception; an
exception keeps the changes made before it.  `Keeps relation program` says that
whatever way the program ends, the state it started from and the one it leaves
are related; for a reflexive and transitive relation it is proved statement by
statement, and so is `Throws property program`, that whatever it raises has a property.
Where more is to be said about a run, `of_bind` and `of_tryExcept` take it apart.
-/

namespace RemoteUnlock.Python

/-- The classes `except` clauses tell apart.  `other` is any other `Exception`,
`base` what is none (a cancelled task). -/
inductive ExcKind where
  | connectionClosed
  | timeout
  | value
  | key
  | type
  | runtime
  | attribute
  | os
  | other
  | base
  deriving DecidableEq, Repr

/-- An exception by its class and the name of its type. -/
structure PyExc where
  kind : ExcKind
  name : Text
  deriving DecidableEq, Repr

namespace PyExc

def valueError : PyExc := ⟨.value, "ValueError".toList⟩

def jsonDecodeError : PyExc := ⟨.value, "JSONDecodeError".toList⟩

def unicodeDecodeError : PyExc := ⟨.value, "UnicodeDecodeError".toList⟩

def keyError : PyExc := ⟨.key, "KeyError".toList⟩

def typeError : PyExc := ⟨.type, "TypeError".toList⟩

def runtimeError : PyExc := ⟨.runtime, "RuntimeError".toList⟩

def recursionError : PyExc := ⟨.runtime, "RecursionError".toList⟩

def overflowError : PyExc := ⟨.other, "OverflowError".toList⟩

def attributeError : PyExc := ⟨.attribute, "AttributeError".toList⟩

def osError : PyExc := ⟨.os, "OSError".toList⟩

def timeoutError : PyExc := ⟨.timeout, "TimeoutError".toList⟩

def connectionClosed : PyExc := ⟨.connectionClosed, "ConnectionClosed".toList⟩

/-- `isinstance(exc, OSError)`; a timeout is one. -/
def isOSError (exc : PyExc) : Bool := exc.kind = .os || exc.kind = .timeout

def isValueError (exc : PyExc) : Bool := exc.kind = .value

/-- `isinstance(exc, Exception)` -/
def isException (exc : PyExc) : Bool := exc.kind ≠ .base

end PyExc

theorem bind_eq_ok {Error α β : Type} {first : Except Error α} {next : α → Except Error β}
    {value : β} :
    (first >>= next) = .ok value ↔ ∃ middle, first = .ok middle ∧ next middle = .ok value := by
  cases first with
  | error error => simp [bind, Except.bind]
  | ok middle => simp [bind, Except.bind]

/-! ## Conditions on results that can be tested -/

section Decidable

variable {α : Type} {holds : α → Prop}

instance [∀ value, Decidable (holds value)] :
    (result : Except PyExc α) → Decidable (∃ value, result = .ok value ∧ holds value)
  | .ok value => decidable_of_iff (holds value)
      ⟨fun held => ⟨value, rfl, held⟩, fun ⟨_, same, held⟩ => Except.ok.inj same ▸ held⟩
  | .error _ => isFalse fun ⟨_, same, _⟩ => nomatch same

instance : (result : Except PyExc α) → Decidable (∃ value, result = .ok value)
  | .ok value => isTrue ⟨value, rfl⟩
  | .error _ => isFalse fun ⟨_, same⟩ => nomatch same

end Decidable

/-- A program over a state. -/
def Py (σ α : Type) : Type := σ → Except PyExc α × σ

namespace Py

variable {σ τ α β : Type}

def pure (value : α) : Py σ α := fun state => (.ok value, state)

def bind (program : Py σ α) (next : α → Py σ β) : Py σ β := fun state =>
  match program state with
  | (.ok value, state) => next value state
  | (.error exc, state) => (.error exc, state)

instance : Monad (Py σ) where
  pure := Py.pure
  bind := Py.bind

def raise (exc : PyExc) : Py σ α := fun state => (.error exc, state)

/-- A value computed from the state. -/
def read (view : σ → α) : Py σ α := fun state => (.ok (view state), state)

def modify (change : σ → σ) : Py σ Unit := fun state => (.ok (), change state)

/-- An operation that either raises or does nothing. -/
def raiseIf : Option PyExc → Py σ Unit
  | none => Py.pure ()
  | some exc => raise exc

def ofExcept (result : Except PyExc α) : Py σ α := fun state => (result, state)

/-- `try: … except …: …`; a handler raises again what it does not catch. -/
def tryExcept (body : Py σ α) (handler : PyExc → Py σ α) : Py σ α := fun state =>
  match body state with
  | (.ok value, state) => (.ok value, state)
  | (.error exc, state) => handler exc state

/-- `try: … finally: …` -/
def tryFinally (body : Py σ α) (final : Py σ Unit) : Py σ α := fun state =>
  match body state with
  | (result, state) =>
      match final state with
      | (.ok _, state) => (result, state)
      | (.error exc, state) => (.error exc, state)

/-- A program on a part of the state. -/
def zoom (view : σ → τ) (put : τ → σ → σ) (program : Py τ α) : Py σ α := fun state =>
  ((program (view state)).1, put (program (view state)).2 state)

/-! ## Running a program -/

@[simp]
theorem pure_apply (value : α) (state : σ) :
    (Pure.pure value : Py σ α) state = (.ok value, state) := rfl

theorem bind_apply (program : Py σ α) (next : α → Py σ β) (state : σ) :
    (program >>= next) state =
      match program state with
      | (.ok value, state) => next value state
      | (.error exc, state) => (.error exc, state) := rfl

theorem bind_of_ok {program : Py σ α} {next : α → Py σ β} {state after : σ} {value : α}
    (ran : program state = (.ok value, after)) :
    (program >>= next) state = next value after := by
  rw [bind_apply, ran]

theorem bind_of_error {program : Py σ α} {next : α → Py σ β} {state after : σ} {exc : PyExc}
    (ran : program state = (.error exc, after)) :
    (program >>= next) state = (.error exc, after) := by
  rw [bind_apply, ran]

/-- A run of two programs in a row: the first raises, or the second runs behind it. -/
theorem of_bind {program : Py σ α} {next : α → Py σ β} {state after : σ}
    {result : Except PyExc β} (ran : (program >>= next) state = (result, after)) :
    (∃ exc, program state = (.error exc, after) ∧ result = .error exc) ∨
      ∃ value middle, program state = (.ok value, middle) ∧
        next value middle = (result, after) := by
  rw [bind_apply] at ran
  rcases first : program state with ⟨outcome, middle⟩
  rw [first] at ran
  cases outcome with
  | error exc =>
      cases ran
      exact .inl ⟨exc, rfl, rfl⟩
  | ok value => exact .inr ⟨value, middle, rfl, ran⟩

/-- A run of a guarded program: the body ends, or the handler runs behind what it raised. -/
theorem of_tryExcept {body : Py σ α} {handler : PyExc → Py σ α} {state after : σ}
    {result : Except PyExc α} (ran : tryExcept body handler state = (result, after)) :
    (∃ value, body state = (.ok value, after) ∧ result = .ok value) ∨
      ∃ exc middle, body state = (.error exc, middle) ∧ handler exc middle = (result, after) := by
  unfold tryExcept at ran
  rcases first : body state with ⟨outcome, middle⟩
  rw [first] at ran
  cases outcome with
  | ok value =>
      cases ran
      exact .inl ⟨value, rfl, rfl⟩
  | error exc => exact .inr ⟨exc, middle, rfl, ran⟩

@[simp]
theorem raise_apply (exc : PyExc) (state : σ) :
    (raise exc : Py σ α) state = (.error exc, state) := rfl

@[simp]
theorem read_apply (view : σ → α) (state : σ) :
    read view state = (.ok (view state), state) := rfl

@[simp]
theorem modify_apply (change : σ → σ) (state : σ) :
    modify change state = (.ok (), change state) := rfl

@[simp]
theorem raiseIf_none : (raiseIf none : Py σ Unit) = Pure.pure () := rfl

@[simp]
theorem raiseIf_some (exc : PyExc) : (raiseIf (some exc) : Py σ Unit) = raise exc := rfl

@[simp]
theorem ofExcept_apply (result : Except PyExc α) (state : σ) :
    ofExcept result state = (result, state) := rfl

theorem ofExcept_eq_iff {result outcome : Except PyExc α} {state after : σ} :
    ofExcept result state = (outcome, after) ↔ result = outcome ∧ state = after := by
  rw [ofExcept_apply, Prod.mk.injEq]

@[simp]
theorem zoom_apply (view : σ → τ) (put : τ → σ → σ) (program : Py τ α) (state : σ) :
    zoom view put program state =
      ((program (view state)).1, put (program (view state)).2 state) := rfl

/-! ## What a program keeps -/

/-- However the program ends, it leaves a state related to the one it started from. -/
def Keeps (relation : σ → σ → Prop) (program : Py σ α) : Prop :=
  ∀ state, relation state (program state).2

section Keeps

variable {relation : σ → σ → Prop}

theorem Keeps.after {program : Py σ α} (keeps : Keeps relation program) {state after : σ}
    {result : Except PyExc α} (ran : program state = (result, after)) : relation state after := by
  have related := keeps state
  rwa [ran] at related

theorem Keeps.modify {change : σ → σ} (related : ∀ state, relation state (change state)) :
    Keeps relation (Py.modify change) := related

theorem Keeps.zoom {view : σ → τ} {put : τ → σ → σ}
    (related : ∀ part state, relation state (put part state)) (program : Py τ α) :
    Keeps relation (Py.zoom view put program) := fun state => related _ state

variable [IsPreorder σ relation]

theorem Keeps.pure (value : α) : Keeps relation (Pure.pure value : Py σ α) :=
  fun state => refl state

theorem Keeps.raise (exc : PyExc) : Keeps relation (Py.raise exc : Py σ α) :=
  fun state => refl state

theorem Keeps.read (view : σ → α) : Keeps relation (Py.read view) := fun state => refl state

theorem Keeps.ofExcept (result : Except PyExc α) : Keeps relation (Py.ofExcept result) :=
  fun state => refl state

theorem Keeps.raiseIf (raises : Option PyExc) :
    Keeps relation (Py.raiseIf raises : Py σ Unit) := by
  cases raises with
  | none => exact Keeps.pure ()
  | some exc => exact Keeps.raise exc

theorem Keeps.bind {program : Py σ α} {next : α → Py σ β} (first : Keeps relation program)
    (second : ∀ value, Keeps relation (next value)) : Keeps relation (program >>= next) := by
  intro state
  have start := first state
  rw [bind_apply]
  rcases ran : program state with ⟨outcome, middle⟩
  rw [ran] at start
  cases outcome with
  | error exc => exact start
  | ok value => exact IsTrans.trans _ _ _ start (second value middle)

theorem Keeps.tryExcept {body : Py σ α} {handler : PyExc → Py σ α} (first : Keeps relation body)
    (second : ∀ exc, Keeps relation (handler exc)) :
    Keeps relation (Py.tryExcept body handler) := by
  intro state
  have start := first state
  unfold Py.tryExcept
  rcases ran : body state with ⟨outcome, middle⟩
  rw [ran] at start
  cases outcome with
  | ok value => exact start
  | error exc => exact IsTrans.trans _ _ _ start (second exc middle)

end Keeps

/-! ## What a program raises -/

/-- Whatever the program raises has the property. -/
def Throws (property : PyExc → Prop) (program : Py σ α) : Prop :=
  ∀ state exc after, program state = (.error exc, after) → property exc

section Throws

variable {property : PyExc → Prop}

theorem Throws.imp {other : PyExc → Prop} {program : Py σ α} (throws : Throws property program)
    (holds : ∀ exc, property exc → other exc) : Throws other program :=
  fun state exc after ran => holds exc (throws state exc after ran)

theorem Throws.pure (value : α) : Throws property (Pure.pure value : Py σ α) :=
  fun _ _ _ ran => nomatch ran

theorem Throws.read (view : σ → α) : Throws property (Py.read view) :=
  fun _ _ _ ran => nomatch ran

theorem Throws.modify (change : σ → σ) : Throws property (Py.modify change) :=
  fun _ _ _ ran => nomatch ran

theorem Throws.ofExcept {result : Except PyExc α}
    (holds : ∀ exc, result = .error exc → property exc) :
    Throws property (Py.ofExcept result : Py σ α) :=
  fun _ exc _ ran => holds exc (ofExcept_eq_iff.mp ran).1

theorem Throws.raiseIf {raises : Option PyExc} (holds : ∀ exc ∈ raises, property exc) :
    Throws property (Py.raiseIf raises : Py σ Unit) := by
  cases raises with
  | none => exact Throws.pure ()
  | some raised =>
      intro state exc after ran
      cases ran
      exact holds _ rfl

theorem Throws.zoom {view : σ → τ} {put : τ → σ → σ} {program : Py τ α}
    (throws : Throws property program) : Throws property (Py.zoom view put program) := by
  intro state exc after ran
  rw [zoom_apply, Prod.mk.injEq] at ran
  exact throws (view state) exc _ (Prod.ext ran.1 rfl)

theorem Throws.bind {program : Py σ α} {next : α → Py σ β} (first : Throws property program)
    (second : ∀ value, Throws property (next value)) : Throws property (program >>= next) := by
  intro state exc after ran
  rcases of_bind ran with ⟨raised, failed, same⟩ | ⟨value, middle, _, rest⟩
  · cases same
    exact first state exc after failed
  · exact second value middle exc after rest

theorem Throws.tryExcept {body : Py σ α} {handler : PyExc → Py σ α}
    (first : Throws property body)
    (second : ∀ exc, property exc → Throws property (handler exc)) :
    Throws property (Py.tryExcept body handler) := by
  intro state exc after ran
  rcases of_tryExcept ran with ⟨value, _, same⟩ | ⟨raised, middle, failed, rest⟩
  · contradiction
  · exact second raised (first state raised middle failed) middle exc after rest

end Throws

end Py

end RemoteUnlock.Python
