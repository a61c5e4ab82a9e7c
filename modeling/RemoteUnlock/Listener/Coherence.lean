import RemoteUnlock.Common.Reload
import RemoteUnlock.Listener.World

/-!
# The loaded configuration and its file

The configuration is coherent if it is what the file says whenever the stored
modification time is the one of the file.  Changes of the file and reloads keep it
coherent, except a reload between whose two accesses the file is replaced.
-/

namespace RemoteUnlock.Listener

open Python Python.Items Common Audit Library

variable {Key : Type} {platform : Platform Key}

/-- Where the stored modification time is that of the file, the configuration is what the file
says. -/
def Coherent (state : ConfigState) : Prop :=
  state.config.mtime = some state.file.mtime →
    parseConfig state.file.content = .ok state.config.data

theorem Coherent.of_behind {state : ConfigState} (behind : Behind state) : Coherent state :=
  fun current => (behind current).elim

theorem Coherent.changed {state : ConfigState} {change : FileChange} (coherent : Coherent state)
    (fresh : change.mtime ∉ state.file.seen) : Coherent (state.changed [change]) := by
  rcases changed_cases fresh with same | behind
  · rwa [same]
  · exact .of_behind behind

/-- No replacement of the file falls between the two accesses of a reload. -/
def Undisturbed (access : FileAccess) : Prop :=
  access.statAgainRaises = none → access.beforeStat = []

theorem Coherent.reloaded {access : FileAccess} {state : ConfigState} (coherent : Coherent state)
    (fresh : FreshChanges state.file (access.beforeRead ++ access.beforeStat))
    (undisturbed : Undisturbed access) : Coherent (reloadIfChanged access state).2 := by
  cases reloadIfChanged_cases access state with
  | kept same => rwa [same]
  | failed behind same =>
      rw [same]
      exact .of_behind (behind.changed fresh.append_left)
  | loaded data behind parsed hasData file mtime =>
      cases again : access.statAgainRaises with
      | none =>
          rw [undisturbed again, ConfigState.changed_nil] at file
          intro current
          rw [hasData, file]
          exact parsed
      | some exc =>
          rw [again] at mtime
          rw [ConfigState.changed_changed] at file
          have later := behind.changed fresh
          refine .of_behind fun current => later ?_
          rw [mtime, file] at current
          exact current

/-- The changes of the file in a step give it modification times it never had. -/
def World.FreshTimes (world : World platform) : Label → Prop
  | .change change => change.mtime ∉ world.service.config.file.seen
  | .connect _ _ access _ =>
      FreshChanges world.service.config.file (access.beforeRead ++ access.beforeStat)
  | _ => True

def Label.Undisturbed : Label → Prop
  | .connect _ _ access _ => Listener.Undisturbed access
  | _ => True

theorem StepCase.coherent {before after : World platform} {label : Label}
    (moved : StepCase before label after) (fresh : before.FreshTimes label)
    (undisturbed : label.Undisturbed) (coherent : Coherent before.service.config) :
    Coherent after.service.config := by
  cases moved.config with
  | same equal => rwa [equal]
  | change change isChange changed =>
      subst isChange
      rw [changed]
      exact coherent.changed fresh
  | reload session peer access answers connects reloaded =>
      subst connects
      rw [reloaded]
      exact coherent.reloaded fresh undisturbed

theorem openConfig_coherent {access : FileAccess} {file : ConfigFile}
    (undisturbed : Undisturbed access) : Coherent (openConfig access file).2 := by
  unfold openConfig
  rcases reload_cases access ⟨⟨[], none⟩, file, by simp⟩ with
    ⟨same, _⟩ | ⟨data, parsed, hasData, kept, mtime⟩
  · rw [same]
    intro current
    contradiction
  · intro current
    cases again : access.statAgainRaises with
    | none =>
        rw [undisturbed again, ConfigState.changed_nil] at kept
        rw [hasData, kept]
        exact parsed
    | some exc =>
        rw [again] at mtime
        rw [mtime] at current
        contradiction

/-- With fresh modification times, and no replacement between the two accesses of a reload,
the configuration of the service stays coherent. -/
theorem coherent_of_undisturbed (platform : Platform Key) (setup : Setup) (labels : List Label)
    (first : Undisturbed setup.access)
    (fresh : Along step World.FreshTimes (World.start platform setup) labels)
    (undisturbed : ∀ label ∈ labels, label.Undisturbed) :
    Coherent (World.after platform setup labels).service.config := by
  have start : Coherent (World.start platform setup).service.config := by
    rcases setup.service_eq with ⟨threshold, base, maximum, ttl, _, same⟩
    simp only [World.start, same]
    exact openConfig_coherent first
  unfold World.after
  generalize World.start platform setup = world at start fresh
  induction labels generalizing world with
  | nil => exact start
  | cons label labels inductionHypothesis =>
      rw [List.forall_mem_cons] at undisturbed
      exact inductionHypothesis undisturbed.2 _
        ((step_cases world label).coherent fresh.1 undisturbed.1 start) fresh.2

/-- The device is disabled and a client reconnects. -/
def disableLabels : List Label :=
  [.change (.put (encode (sampleText "false".toList)) 2),
    .connect 0 samplePeer .calm calmAnswers]

theorem coherent_disableLabels :
    Coherent (World.after samplePlatform sampleSetup disableLabels).service.config := by
  apply coherent_of_undisturbed
  · exact fun _ => rfl
  · refine ⟨?_, trivial, trivial⟩
    change 2 ∉ sampleFile.seen
    decide
  · intro label membership
    rcases List.mem_pair.mp membership with rfl | rfl
    · trivial
    · exact fun _ => rfl

/-- The device is disabled between the two accesses of the first load. -/
def disturbedAccess : FileAccess :=
  { FileAccess.calm with beforeStat := [.put (encode (sampleText "false".toList)) 2] }

def disturbedState : ConfigState where
  config := ⟨update defaults (sampleMembers true), some 2⟩
  file := sampleFile.replace (encode (sampleText "false".toList)) 2
  stored := by
    rintro mtime ⟨⟩
    exact (sampleFile.replace _ 2).current

theorem openConfig_disturbed :
    openConfig disturbedAccess sampleFile = (.ok (), disturbedState) := by
  simp [openConfig, reload, disturbedAccess, FileAccess.calm, setData, elapse, storeMtime,
    ConfigState.changed, disturbedState, Py.bind_apply, parseConfig_sampleFile,
    ConfigFile.change, ConfigFile.replace]

def disturbedSetup : Setup where
  file := sampleFile
  access := disturbedAccess
  audit := .fresh
  now := sampleSetup.now
  service := sampleService disturbedState
  opened := by rw [openConfig_disturbed]
  started := by
    rw [openConfig_disturbed]
    rfl

theorem parseConfig_disabled :
    parseConfig (encode (sampleText "false".toList)) =
      .ok (update defaults (sampleMembers false)) := by
  decide +kernel

/-- The service goes on with the device enabled, under the modification time of the file that
disables it. -/
theorem not_coherent_disturbed :
    ¬ Coherent (World.after samplePlatform disturbedSetup []).service.config := by
  intro coherent
  have parsed : parseConfig (encode (sampleText "false".toList)) =
      .ok (update defaults (sampleMembers true)) := coherent rfl
  rw [parseConfig_disabled, Except.ok.injEq] at parsed
  have devices := congrArg (lookup (py "devices")) parsed
  revert devices
  decide +kernel

end RemoteUnlock.Listener
