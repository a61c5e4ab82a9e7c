import RemoteUnlock.Common.Config

/-!
# Reloading the configuration

What one `reload_if_changed` can do, said once in `reloadIfChanged_cases`.  A reload
compares modification times, so what it can miss depends on whether a replaced file has
a new one: with fresh times a configuration that is behind its file stays behind it until
it is loaded again (`Behind.changed`).
-/

namespace RemoteUnlock.Common

open Python Python.Items

/-- Every change gives the file a modification time it never had. -/
def FreshChanges : ConfigFile → List FileChange → Prop
  | _, [] => True
  | file, change :: changes => change.mtime ∉ file.seen ∧ FreshChanges (file.change change) changes

/-- The next reload will read the file. -/
def Behind (state : ConfigState) : Prop := state.config.mtime ≠ some state.file.mtime

theorem FreshChanges.append_left {file : ConfigFile} {first second : List FileChange}
    (fresh : FreshChanges file (first ++ second)) : FreshChanges file first := by
  induction first generalizing file with
  | nil => trivial
  | cons change first inductionHypothesis => exact ⟨fresh.1, inductionHypothesis fresh.2⟩

@[simp]
theorem ConfigState.changed_nil (state : ConfigState) : state.changed [] = state := rfl

theorem ConfigState.changed_cons (state : ConfigState) (change : FileChange)
    (changes : List FileChange) :
    state.changed (change :: changes) = (state.changed [change]).changed changes := rfl

theorem ConfigState.changed_changed (state : ConfigState) (first second : List FileChange) :
    (state.changed first).changed second = state.changed (first ++ second) := by
  simp [ConfigState.changed, List.foldl_append]

/-- A fresh change leaves the file or leaves the configuration behind it. -/
theorem changed_cases {state : ConfigState} {change : FileChange}
    (fresh : change.mtime ∉ state.file.seen) :
    state.changed [change] = state ∨ Behind (state.changed [change]) := by
  rcases state.file.change_cases change with same | ⟨content, replaced⟩
  · left
    have file : (state.changed [change]).file = state.file := same
    cases state
    simpa [ConfigState.changed] using file
  · right
    intro current
    have time : (state.changed [change]).file.mtime = change.mtime :=
      congrArg ConfigFile.mtime replaced
    have stored : some change.mtime = state.config.mtime := by rw [← time, ← current]; rfl
    exact fresh (state.stored change.mtime stored.symm)

theorem Behind.changed {state : ConfigState} (behind : Behind state)
    {changes : List FileChange} (fresh : FreshChanges state.file changes) :
    Behind (state.changed changes) := by
  induction changes generalizing state with
  | nil => exact behind
  | cons change changes inductionHypothesis =>
      rw [ConfigState.changed_cons]
      apply inductionHypothesis _ fresh.2
      rcases changed_cases fresh.1 with same | later
      · rwa [same]
      · exact later

/-- How a reload ends: nothing is loaded; or the file is read, at a time when it has changed
already, and its modification time is asked for later, or not. -/
inductive Reloaded (access : FileAccess) (before after : ConfigState) : Prop where
  | kept (same : after = before)
      (reason : access.statRaises.isSome = true ∨ ¬ Behind before) : Reloaded access before after
  | failed (behind : Behind before) (same : after = before.changed access.beforeRead)
      (reason : access.readRaises.isSome = true ∨
        ∃ exc, parseConfig (before.changed access.beforeRead).file.content = .error exc) :
      Reloaded access before after
  | loaded (data : Dict) (behind : Behind before)
      (parsed : parseConfig (before.changed access.beforeRead).file.content = .ok data)
      (hasData : after.config.data = data)
      (file : after.file =
        ((before.changed access.beforeRead).changed access.beforeStat).file)
      (mtime : after.config.mtime = if access.statAgainRaises.isSome then before.config.mtime
        else some after.file.mtime) : Reloaded access before after

theorem reload_cases (access : FileAccess) (before : ConfigState) :
    ((reload access before).2 = before ∧ (access.readRaises.isSome = true ∨
        ∃ exc, parseConfig before.file.content = .error exc)) ∨
      ∃ data, parseConfig before.file.content = .ok data ∧
        (reload access before).2.config.data = data ∧
        (reload access before).2.file = (before.changed access.beforeStat).file ∧
        (reload access before).2.config.mtime = if access.statAgainRaises.isSome then
          before.config.mtime else some (reload access before).2.file.mtime := by
  unfold reload
  cases access.readRaises with
  | some exc => exact .inl ⟨by simp [Py.bind_apply], .inl rfl⟩
  | none =>
      cases parsed : parseConfig before.file.content with
      | error exc => exact .inl ⟨by simp [Py.bind_apply, parsed], .inr ⟨exc, rfl⟩⟩
      | ok data =>
          right
          refine ⟨data, rfl, ?_⟩
          cases access.statAgainRaises with
          | some exc =>
              simp [Py.bind_apply, parsed, setData, elapse, ConfigState.changed]
          | none =>
              simp [Py.bind_apply, parsed, setData, elapse, storeMtime, ConfigState.changed]

theorem reloadIfChanged_cases (access : FileAccess) (before : ConfigState) :
    Reloaded access before (reloadIfChanged access before).2 := by
  have settled : ∀ body : Py ConfigState Unit, (Py.tryExcept body
      (fun exc => if exc.isOSError || exc.isValueError then pure () else Py.raise exc)
        before).2 = (body before).2 := by
    intro body
    unfold Py.tryExcept
    rcases body before with ⟨outcome, after⟩
    cases outcome with
    | ok value => rfl
    | error exc =>
        simp only
        split <;> rfl
  unfold reloadIfChanged
  rw [settled]
  cases stat : access.statRaises with
  | some exc =>
      exact .kept (by simp [Py.bind_apply]) (.inl (by simp [stat]))
  | none =>
      by_cases behind : before.config.mtime = some before.file.mtime
      · exact .kept (by simp [Py.bind_apply, behind]) (.inr (by simpa [Behind] using behind))
      · have rereads : (do
            Py.raiseIf none
            let changed ← Py.read fun state : ConfigState =>
              decide (state.config.mtime ≠ some state.file.mtime)
            if changed then do
              elapse access.beforeRead
              reload access
            else pure ()) before = reload access (before.changed access.beforeRead) := by
          simp [Py.bind_apply, behind, elapse]
        rw [rereads]
        rcases reload_cases access (before.changed access.beforeRead) with
          ⟨same, reason⟩ | ⟨data, parsed, hasData, file, mtime⟩
        · exact .failed behind same reason
        · exact .loaded data behind parsed hasData file mtime

/-- A configuration that is not behind its file is not loaded again. -/
theorem reloadIfChanged_of_current {state : ConfigState} (access : FileAccess)
    (current : ¬ Behind state) : (reloadIfChanged access state).2 = state := by
  cases reloadIfChanged_cases access state with
  | kept same reason => exact same
  | failed behind same reason => exact absurd behind current
  | loaded data behind parsed hasData file mtime => exact absurd behind current

end RemoteUnlock.Common
