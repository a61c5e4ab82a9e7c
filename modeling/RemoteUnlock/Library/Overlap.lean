import Mathlib.Data.List.Sublists
import Mathlib.Logic.Function.Basic
import RemoteUnlock.Library.Runs

/-!
# Updates that overlap

Processes read a cell, compute, and write it, with nothing to keep them apart.  The cell is
always what some of the processes that have written it would leave in turn, the last one
among them (`run_layered`); the others are lost.  Where every process finds the cell as it
has read it when it is finished, none is lost (`run_undisturbed`).
-/

namespace RemoteUnlock.Library

/-- How far a process is. -/
inductive Phase (Cell : Type*) where
  | waiting
  | holding (read : Cell)
  | finished

/-- A process reads the cell, or it finishes. -/
inductive Access where
  | read (process : ℕ)
  | finish (process : ℕ)

/-- The cell, the processes, and which of them have finished and written, in this order. -/
structure Shared (Cell : Type*) where
  cell : Cell
  phase : ℕ → Phase Cell
  finished : List ℕ
  written : List ℕ

namespace Shared

variable {Cell : Type*} (update : ℕ → Cell → Option Cell)

def start (cell : Cell) : Shared Cell := ⟨cell, fun _ => .waiting, [], []⟩

def read (shared : Shared Cell) (process : ℕ) : Shared Cell :=
  { shared with phase := Function.update shared.phase process (.holding shared.cell) }

/-- A process that has read a value is finished and may write another one. -/
def finish (shared : Shared Cell) (process : ℕ) (read : Cell) : Shared Cell :=
  { cell := (update process read).getD shared.cell
    phase := Function.update shared.phase process .finished
    finished := shared.finished ++ [process]
    written := shared.written ++ if (update process read).isSome then [process] else [] }

theorem phase_read (shared : Shared Cell) (process other : ℕ) :
    (shared.read process).phase other =
      if other = process then .holding shared.cell else shared.phase other :=
  Function.update_apply ..

theorem phase_finish (shared : Shared Cell) (process : ℕ) (read : Cell) (other : ℕ) :
    (shared.finish update process read).phase other =
      if other = process then .finished else shared.phase other :=
  Function.update_apply ..

/-- A process reads once and finishes once. -/
def step (shared : Shared Cell) : Access → Shared Cell
  | .read process =>
      match shared.phase process with
      | .waiting => shared.read process
      | _ => shared
  | .finish process =>
      match shared.phase process with
      | .holding read => shared.finish update process read
      | _ => shared

/-- What processes leave that run in turn. -/
def serial (processes : List ℕ) (cell : Cell) : Cell :=
  processes.foldl (fun cell process => (update process cell).getD cell) cell

variable {update}

@[simp]
theorem serial_nil (cell : Cell) : serial update [] cell = cell := rfl

theorem serial_concat (processes : List ℕ) (process : ℕ) (cell : Cell) :
    serial update (processes ++ [process]) cell =
      (update process (serial update processes cell)).getD (serial update processes cell) := by
  rw [serial, List.foldl_append]
  rfl

/-- What one step does. -/
inductive StepCase (update : ℕ → Cell → Option Cell) (shared : Shared Cell) :
    Access → Shared Cell → Prop where
  | idle (access : Access) : StepCase update shared access shared
  | read (process : ℕ) : StepCase update shared (.read process) (shared.read process)
  | finish (process : ℕ) (read : Cell) (holds : shared.phase process = .holding read) :
      StepCase update shared (.finish process) (shared.finish update process read)

theorem step_cases (update : ℕ → Cell → Option Cell) (shared : Shared Cell) (access : Access) :
    StepCase update shared access (shared.step update access) := by
  cases access with
  | read process =>
      simp only [step]
      split
      · exact .read process
      · exact .idle _
  | finish process =>
      cases holds : shared.phase process with
      | holding read =>
          simp only [step, holds]
          exact .finish process read holds
      | _ =>
          simp only [step, holds]
          exact .idle _

/-! ## Every interleaving -/

/-- A value that some of the processes leave in turn. -/
def Reached (update : ℕ → Cell → Option Cell) (origin : Cell) (written : List ℕ)
    (value : Cell) : Prop :=
  ∃ kept, kept.Sublist written ∧ serial update kept origin = value

theorem Reached.append {origin value : Cell} {written : List ℕ}
    (reached : Reached update origin written value) (more : List ℕ) :
    Reached update origin (written ++ more) value := by
  obtain ⟨kept, sublist, same⟩ := reached
  exact ⟨kept, sublist.trans (List.sublist_append_left _ _), same⟩

/-- What is read and what stands in the cell is what some of the processes leave in turn, the
last one to write among them. -/
structure Layered (update : ℕ → Cell → Option Cell) (origin : Cell) (shared : Shared Cell) :
    Prop where
  cell : ∃ kept, kept.Sublist shared.written ∧ kept.getLast? = shared.written.getLast? ∧
    serial update kept origin = shared.cell
  held : ∀ process read, shared.phase process = .holding read →
    Reached update origin shared.written read

theorem layered_start (origin : Cell) : Layered update origin (start origin) :=
  ⟨⟨[], List.Sublist.refl _, rfl, rfl⟩, fun _ _ holds => nomatch holds⟩

theorem Layered.read {origin : Cell} {shared : Shared Cell}
    (layered : Layered update origin shared) (process : ℕ) :
    Layered update origin (shared.read process) where
  cell := layered.cell
  held other value holds := by
    rw [phase_read] at holds
    split at holds
    · obtain ⟨kept, sublist, _, leaves⟩ := layered.cell
      cases holds
      exact ⟨kept, sublist, leaves⟩
    · exact layered.held other value holds

theorem Layered.finish {origin read : Cell} {shared : Shared Cell} {process : ℕ}
    (layered : Layered update origin shared) (holds : shared.phase process = .holding read) :
    Layered update origin (shared.finish update process read) where
  cell := by
    cases writes : update process read with
    | none => simpa [Shared.finish, writes] using layered.cell
    | some value =>
        obtain ⟨kept, sublist, leaves⟩ := layered.held process read holds
        refine ⟨kept ++ [process], ?_, ?_, ?_⟩
        · simpa [Shared.finish, writes] using sublist
        · simp [Shared.finish, writes]
        · rw [serial_concat, leaves, writes]
          simp [Shared.finish, writes]
  held other value waits := by
    rw [phase_finish] at waits
    split at waits
    · contradiction
    · exact (layered.held other value waits).append _

theorem Layered.step {origin : Cell} {shared : Shared Cell} (access : Access)
    (layered : Layered update origin shared) :
    Layered update origin (shared.step update access) := by
  have moved := step_cases update shared access
  generalize shared.step update access = after at moved
  cases moved with
  | idle => exact layered
  | read process => exact layered.read process
  | finish process read holds => exact layered.finish holds

/-- Whatever the order of the accesses, the cell is what some of the processes that have written
it leave in turn, the last one among them. -/
theorem run_layered (update : ℕ → Cell → Option Cell) (origin : Cell) (accesses : List Access) :
    Layered update origin (run (step update) (start origin) accesses) :=
  run_invariant (fun _ access layered => layered.step access) (layered_start origin) accesses

/-! ## Interleavings in which nothing is lost -/

/-- A process that finishes finds the cell as it has read it. -/
def Undisturbed (shared : Shared Cell) : Access → Prop
  | .finish process => ∀ read, shared.phase process = .holding read → shared.cell = read
  | .read _ => True

/-- The cell is what all processes that have finished leave in turn. -/
def InTurn (update : ℕ → Cell → Option Cell) (origin : Cell) (shared : Shared Cell) : Prop :=
  shared.cell = serial update shared.finished origin

theorem InTurn.step {origin : Cell} (shared : Shared Cell) (access : Access)
    (inTurn : InTurn update origin shared) (undisturbed : Undisturbed shared access) :
    InTurn update origin (shared.step update access) := by
  have moved := step_cases update shared access
  generalize shared.step update access = after at moved
  cases moved with
  | idle => exact inTurn
  | read process => exact inTurn
  | finish process read holds =>
      obtain rfl := undisturbed read holds
      change (update process shared.cell).getD shared.cell =
        serial update (shared.finished ++ [process]) origin
      rw [serial_concat, ← inTurn]

theorem run_undisturbed {origin : Cell} {accesses : List Access}
    (undisturbed : Along (step update) Undisturbed (start origin) accesses) :
    InTurn update origin (run (step update) (start origin) accesses) := by
  have start : InTurn update origin (start origin) := rfl
  exact run_invariant_along InTurn.step start undisturbed

/-- What every update keeps, such a run keeps. -/
theorem run_keeps {relation : Cell → Cell → Prop} [IsPreorder Cell relation]
    (keeps : ∀ process cell value, update process cell = some value → relation cell value)
    {shared : Shared Cell} {accesses : List Access}
    (undisturbed : Along (step update) Undisturbed shared accesses) :
    relation shared.cell (run (step update) shared accesses).cell := by
  induction accesses generalizing shared with
  | nil => exact refl _
  | cons access accesses inductionHypothesis =>
      suffices first : relation shared.cell (shared.step update access).cell from
        Trans.trans first (inductionHypothesis undisturbed.2)
      have calm := undisturbed.1
      have moved := step_cases update shared access
      generalize shared.step update access = after at moved
      cases moved with
      | idle => exact refl _
      | read process => exact refl _
      | finish process read holds =>
          obtain rfl := calm read holds
          change relation shared.cell ((update process shared.cell).getD shared.cell)
          cases writes : update process shared.cell with
          | none => exact refl _
          | some value => exact keeps process _ value writes

end Shared

end RemoteUnlock.Library
