import RemoteUnlock.Python.Exec
import RemoteUnlock.Python.JsonRoundTrip
import RemoteUnlock.Python.TextFile

/-!
# Configuration

The configuration is a JSON file that another process replaces while the service
runs.  `reload` reads the file and then asks for its modification time, two
accesses between which the file can change; `FileAccess` says what happens around
and between them.
-/

namespace RemoteUnlock.Common

open Python Python.Items

abbrev Dict := List (PyStr × Json)

/-! ## Reading the file -/

/-- `DEFAULTS` -/
def defaults : Dict :=
  [(py "version", .int 2), (py "listener_port", .int 8765), (py "challenge_ttl", .int 10),
    (py "grant_ttl", .int 20), (py "pam_wait", .int 15),
    (py "pam_socket", .str (py "/run/remote-unlock/pam.sock")),
    (py "pam_allowed_uids", .arr [.int 0]), (py "service_user", .str (py "remote-unlock")),
    (py "require_mtls", .bool true), (py "allow_any_interface", .bool false),
    (py "max_connections", .int 16),
    (py "lockout", .obj [(py "threshold", .int 3), (py "base_seconds", .int 30),
      (py "max_seconds", .int 3600)]),
    (py "alerts", .obj []), (py "audit_log", .null), (py "devices", .arr [])]

/-- What an element gives to `dict.update` of a list.  A key that is no string does not
meet any lookup. -/
def updatePair : Json → Except PyExc Dict
  | .arr [.str key, value] => .ok [(key, value)]
  | .arr [.arr _, _] => .error .typeError
  | .arr [.obj _, _] => .error .typeError
  | .arr [_, _] => .ok []
  | .str [first, second] => .ok [([first], .str [second])]
  | .obj [first, second] => .ok [(first.1, .str second.1)]
  | .arr _ => .error .valueError
  | .str _ => .error .valueError
  | .obj _ => .error .valueError
  | _ => .error .typeError

/-- `data.update(raw)` -/
def updateFrom (data : Dict) : Json → Except PyExc Dict
  | .obj members => .ok (update data members)
  | raw =>
      match raw.iterate with
      | none => .error .typeError
      | some elements => (elements.mapM updatePair).map fun pairs => update data pairs.flatten

/-- `DEFAULTS` updated with the content of the file. -/
def parseConfig (content : Bytes) : Except PyExc Dict :=
  match Utf8State.run .start content with
  | some (.start, text) =>
      match Json.loads (universalNewlines text) with
      | none => .error .jsonDecodeError
      | some raw => updateFrom defaults raw
  | _ => .error .unicodeDecodeError

/-! ## Changing the file -/

/-- `config.json`, with every modification time it has had, the current one included. -/
structure ConfigFile where
  content : Bytes
  mtime : ℕ
  seen : List ℕ
  current : mtime ∈ seen

/-- `write_private` puts new content in the place of the file. -/
def ConfigFile.replace (file : ConfigFile) (content : Bytes) (mtime : ℕ) : ConfigFile :=
  ⟨content, mtime, mtime :: file.seen, List.mem_cons_self⟩

/-- The record `revoke_device` finds, disabled; `none` if there is none. -/
def revokeIn (name : PyStr) (stamp : Text) : List Json → Except PyExc (Option (List Json))
  | [] => .ok none
  | .obj device :: rest =>
      match lookup (py "id") device with
      | none => .error .keyError
      | some identifier =>
          if identifier = .str name then
            .ok (some (.obj (assign (py "revoked") (.str (ofText stamp))
              (assign (py "enabled") (.bool false) device)) :: rest))
          else (revokeIn name stamp rest).map fun found =>
            found.map fun rest => .obj device :: rest
  | _ :: _ => .error .typeError

/-- `revoke_device(cfg_dir, name)`: the content it saves, if it finds the device. -/
def revokeDevice (name : PyStr) (stamp : Text) (content : Bytes) :
    Except PyExc (Option Bytes) := do
  let data ← parseConfig content
  match lookup (py "devices") data with
  | some (.arr devices) =>
      let found ← revokeIn name stamp devices
      pure (found.map fun devices =>
        encode (Json.dumpsIndent 2 (.obj (assign (py "devices") (.arr devices) data))))
  | _ => throw .typeError

/-- What another process does to the file in one step. -/
inductive FileChange where
  | put (content : Bytes) (mtime : ℕ)
  | revoke (name : PyStr) (stamp : Text) (mtime : ℕ)

def FileChange.mtime : FileChange → ℕ
  | .put _ mtime => mtime
  | .revoke _ _ mtime => mtime

def ConfigFile.change (file : ConfigFile) : FileChange → ConfigFile
  | .put content mtime => file.replace content mtime
  | .revoke name stamp mtime =>
      match revokeDevice name stamp file.content with
      | .ok (some content) => file.replace content mtime
      | _ => file

/-- A change replaces the file, with its own modification time, or leaves it. -/
theorem ConfigFile.change_cases (file : ConfigFile) (change : FileChange) :
    file.change change = file ∨
      ∃ content, file.change change = file.replace content change.mtime := by
  cases change with
  | put content mtime => exact .inr ⟨content, rfl⟩
  | revoke name stamp mtime =>
      simp only [change]
      split
      next content _ => exact .inr ⟨content, rfl⟩
      · exact .inl rfl

theorem ConfigFile.seen_change {file : ConfigFile} (change : FileChange) {mtime : ℕ}
    (membership : mtime ∈ file.seen) : mtime ∈ (file.change change).seen := by
  rcases file.change_cases change with same | ⟨content, replaced⟩
  · rwa [same]
  · rw [replaced]
    exact List.mem_cons_of_mem _ membership

theorem ConfigFile.seen_changes {file : ConfigFile} (changes : List FileChange) {mtime : ℕ}
    (membership : mtime ∈ file.seen) : mtime ∈ (changes.foldl change file).seen := by
  induction changes generalizing file with
  | nil => exact membership
  | cons change changes inductionHypothesis =>
      exact inductionHypothesis (seen_change change membership)

/-! ## The loaded configuration -/

/-- The fields of a `Config`. -/
structure Config where
  data : Dict
  mtime : Option ℕ

/-- A configuration and the file behind it, which had the stored modification time at some
point. -/
structure ConfigState where
  config : Config
  file : ConfigFile
  stored : ∀ mtime ∈ config.mtime, mtime ∈ file.seen

/-- Other processes change the file. -/
def ConfigState.changed (state : ConfigState) (changes : List FileChange) : ConfigState where
  config := state.config
  file := changes.foldl ConfigFile.change state.file
  stored mtime isStored := ConfigFile.seen_changes changes (state.stored mtime isStored)

/-- How the file accesses of one reload end and what happens between them. -/
structure FileAccess where
  statRaises : Option PyExc
  beforeRead : List FileChange
  readRaises : Option PyExc
  beforeStat : List FileChange
  statAgainRaises : Option PyExc

/-- Time in which other processes change the file. -/
def elapse (changes : List FileChange) : Py ConfigState Unit :=
  Py.modify fun state => state.changed changes

/-- `self.data = data` -/
def setData (data : Dict) : Py ConfigState Unit :=
  Py.modify fun state => { state with config := { state.config with data := data } }

/-- `self._mtime` is set to the modification time of the file. -/
def storeMtime : Py ConfigState Unit :=
  Py.modify fun state =>
    { state with
      config := { state.config with mtime := some state.file.mtime }
      stored := by
        rintro mtime ⟨⟩
        exact state.file.current }

/-- `Config.reload` -/
def reload (access : FileAccess) : Py ConfigState Unit := do
  Py.raiseIf access.readRaises
  let content ← Py.read fun state => state.file.content
  let data ← Py.ofExcept (parseConfig content)
  setData data
  elapse access.beforeStat
  Py.raiseIf access.statAgainRaises
  storeMtime

/-- `Config.reload_if_changed` -/
def reloadIfChanged (access : FileAccess) : Py ConfigState Unit :=
  Py.tryExcept
    (do
      Py.raiseIf access.statRaises
      let changed ← Py.read fun state => decide (state.config.mtime ≠ some state.file.mtime)
      if changed then do
        elapse access.beforeRead
        reload access
      else pure ())
    fun exc => if exc.isOSError || exc.isValueError then pure () else Py.raise exc

/-- `Config(path)` -/
def openConfig (access : FileAccess) (file : ConfigFile) : Except PyExc Unit × ConfigState :=
  reload access ⟨⟨[], none⟩, file, by simp⟩

/-- Accesses to a file that stays as it is. -/
def FileAccess.calm : FileAccess := ⟨none, [], none, [], none⟩

/-- A configuration that has just been loaded. -/
def ConfigState.loaded (file : ConfigFile) (data : Dict) : ConfigState where
  config := ⟨data, some file.mtime⟩
  file := file
  stored := by
    rintro mtime ⟨⟩
    exact file.current

theorem openConfig_calm {file : ConfigFile} {data : Dict}
    (parsed : parseConfig file.content = .ok data) :
    openConfig .calm file = (.ok (), .loaded file data) := by
  simp [openConfig, reload, FileAccess.calm, setData, elapse, storeMtime, ConfigState.changed,
    ConfigState.loaded, Py.bind_apply, parsed]

/-! ## Looking up devices -/

/-- The first enabled device whose field `key` is `wanted`. -/
def deviceBy (key : String) (wanted : PyStr) : List Json → Except PyExc (Option Dict)
  | [] => .ok none
  | .obj device :: rest =>
      if ((lookup (py "enabled") device).getD (.bool true)).truthy then
        match lookup (py key) device with
        | none => .error .keyError
        | some value =>
            if value = .str wanted then .ok (some device) else deviceBy key wanted rest
      else deviceBy key wanted rest
  | _ :: _ => .error .attributeError

/-- `self.data["devices"]` as a sequence. -/
def devices (data : Dict) : Except PyExc (List Json) :=
  match lookup (py "devices") data with
  | none => .error .keyError
  | some value =>
      match value.iterate with
      | none => .error .typeError
      | some elements => .ok elements

/-- `Config.device_by_fp` -/
def deviceByFp (data : Dict) (fingerprint : PyStr) : Except PyExc (Option Dict) := do
  deviceBy "cert_sha256" fingerprint (← devices data)

/-- `Config.device_by_id` -/
def deviceById (data : Dict) (deviceId : PyStr) : Except PyExc (Option Dict) := do
  deviceBy "id" deviceId (← devices data)

/-- A device record as the lookups of a configuration return it. -/
def EnabledIn (data : Dict) (device : Dict) : Prop :=
  ((lookup (py "enabled") device).getD (.bool true)).truthy = true ∧
    ∃ elements, devices data = .ok elements ∧ .obj device ∈ elements

theorem deviceBy_spec {key : String} {wanted : PyStr} {elements : List Json} {device : Dict}
    (found : deviceBy key wanted elements = .ok (some device)) :
    ((lookup (py "enabled") device).getD (.bool true)).truthy = true ∧
      lookup (py key) device = some (.str wanted) ∧ .obj device ∈ elements := by
  fun_induction deviceBy key wanted elements with
  | case1 => simp at found
  | case2 => simp at found
  | case3 other rest enabled present =>
      simp only [Except.ok.injEq, Option.some.injEq] at found
      subst found
      exact ⟨enabled, present, List.mem_cons_self⟩
  | case4 other rest enabled value present different inductionHypothesis =>
      rcases inductionHypothesis found with ⟨isEnabled, field, membership⟩
      exact ⟨isEnabled, field, List.mem_cons_of_mem _ membership⟩
  | case5 other rest disabled inductionHypothesis =>
      rcases inductionHypothesis found with ⟨isEnabled, field, membership⟩
      exact ⟨isEnabled, field, List.mem_cons_of_mem _ membership⟩
  | case6 => simp at found

theorem deviceByFp_spec {data : Dict} {fingerprint : PyStr} {device : Dict}
    (found : deviceByFp data fingerprint = .ok (some device)) :
    EnabledIn data device ∧ lookup (py "cert_sha256") device = some (.str fingerprint) := by
  unfold deviceByFp at found
  cases listed : devices data with
  | error exc => simp [listed, bind, Except.bind] at found
  | ok elements =>
      simp only [listed, bind, Except.bind] at found
      rcases deviceBy_spec found with ⟨enabled, field, membership⟩
      exact ⟨⟨enabled, elements, listed, membership⟩, field⟩

theorem deviceById_spec {data : Dict} {deviceId : PyStr} {device : Dict}
    (found : deviceById data deviceId = .ok (some device)) :
    EnabledIn data device ∧ lookup (py "id") device = some (.str deviceId) := by
  unfold deviceById at found
  cases listed : devices data with
  | error exc => simp [listed, bind, Except.bind] at found
  | ok elements =>
      simp only [listed, bind, Except.bind] at found
      rcases deviceBy_spec found with ⟨enabled, field, membership⟩
      exact ⟨⟨enabled, elements, listed, membership⟩, field⟩

end RemoteUnlock.Common
