import RemoteUnlock.Library.Runs
import RemoteUnlock.Pair.Interleaving

/-!
# The registry of devices

Calls of the commands one after the other keep a list in which every name and every
fingerprint stands once, with the revoked records among the others.  What the lookups make
of it is a partial map from names to records (`Represents`).  One thing is missing: the
name of a revoked record cannot be registered again.
-/

namespace RemoteUnlock.Pair

open Python Python.Items Common Library

variable {Key : Type}

/-! ## Calls -/

inductive Call where
  | init (arguments : InitArguments) (prepare : Option PyExc) (setup : Except PyExc Setup)
  | command (command : Command)

/-- A call, with what its accesses to `config.json` raise. -/
structure Label where
  call : Call
  accesses : Accesses

def Label.run (platform : Platform Key) (label : Label) (file : Option Bytes) :
    Except Failure Unit × Option Bytes :=
  match label.call with
  | .init arguments prepare setup => Pair.init platform arguments prepare setup label.accesses file
  | .command command => command.run platform label.accesses file

/-- The fingerprint of the certificate that is issued, if one is. -/
def Call.fingerprint : Call → Option PyStr
  | .command (.addDevice _ _ (.ok issued)) => some (ofText issued.certSha256)
  | _ => none

/-! ## The abstract registry -/

/-- The record has this fingerprint. -/
def Bears (fingerprint : PyStr) (device : Dict) : Prop :=
  lookup (py "cert_sha256") device = some (.str fingerprint)

/-- The current registration of every name, and the fingerprints of the earlier ones. -/
structure Registry where
  current : PyStr → Option Dict
  retired : PyStr → Prop

namespace Registry

def empty : Registry := ⟨fun _ => none, fun _ => False⟩

def register (registry : Registry) (name : PyStr) (device : Dict) : Registry :=
  { registry with current := Function.update registry.current name (some device) }

def revoke (registry : Registry) (name : PyStr) : Registry where
  current := Function.update registry.current name none
  retired fingerprint := registry.retired fingerprint ∨
    ∃ device, registry.current name = some device ∧ Bears fingerprint device

/-- Everything is revoked. -/
def clear (registry : Registry) : Registry where
  current _ := none
  retired fingerprint := registry.retired fingerprint ∨
    ∃ name device, registry.current name = some device ∧ Bears fingerprint device

/-- What a call that returns does to the registry; one that does not leaves it. -/
def after (platform : Platform Key) (registry : Registry) (call : Call) :
    Except Failure Unit → Registry
  | .error _ => registry
  | .ok _ =>
      match call with
      | .init _ _ _ => registry.clear
      | .command (.addDevice name phonePubkey issue) =>
          match loadPublicKey platform.crypto phonePubkey, issue with
          | .ok key, .ok issued => registry.register name (record platform name key issued)
          | _, _ => registry
      | .command (.revokeDevice name _) => registry.revoke name
      | .command (.renewServer _ _ _) => registry

end Registry

/-- The lookups in the data are those of the registry: by name, by the fingerprints of the
current registrations, by no other fingerprint, and by none of an earlier registration. -/
structure Represents (registry : Registry) (data : Dict) : Prop where
  byId : ∀ name, deviceById data name = .ok (registry.current name)
  byFp : ∀ name device fingerprint, registry.current name = some device →
    Bears fingerprint device → deviceByFp data fingerprint = .ok (some device)
  others : ∀ fingerprint,
    (∀ name device, registry.current name = some device → ¬ Bears fingerprint device) →
      deviceByFp data fingerprint = .ok none
  retired : ∀ fingerprint, registry.retired fingerprint → deviceByFp data fingerprint = .ok none

/-! ## Calls one after the other -/

/-- `config.json`, and the registry that goes with it. -/
structure Directory where
  file : Option Bytes
  registry : Registry

namespace Directory

def start : Directory := ⟨none, .empty⟩

def step (platform : Platform Key) (directory : Directory) (label : Label) : Directory where
  file := (label.run platform directory.file).2
  registry := directory.registry.after platform label.call (label.run platform directory.file).1

end Directory

/-- The command is about this element of the list. -/
def Command.concerns (command : Command) : Json → Bool
  | .obj device =>
      match command with
      | .addDevice name _ _ => decide (lookup (py "id") device = some (.str name))
      | .revokeDevice name _ => decide (lookup (py "id") device = some (.str name))
      | .renewServer _ _ _ => false
  | _ => false

/-- A call does what it should: a new name can be registered, a call that fails changes
nothing, the lookups follow the registry, and the other records are kept. -/
structure Lawful (platform : Platform Key) (directory : Directory) (label : Label) : Prop where
  succeeds : ∀ name phonePubkey key issued,
    label.call = .command (.addDevice name phonePubkey (.ok issued)) → idMatches name = true →
      loadPublicKey platform.crypto phonePubkey = .ok key → label.accesses = .calm →
        directory.file ≠ none → directory.registry.current name = none →
          (label.run platform directory.file).1 = .ok ()
  fails : ∀ failure, (label.run platform directory.file).1 = .error failure →
    (label.run platform directory.file).2 = directory.file
  represents : ∀ content, (directory.step platform label).file = some content →
    ∃ data, parseConfig content = .ok data ∧
      Represents (directory.step platform label).registry data
  others : ∀ command, label.call = .command command → ∀ elements,
    Listed directory.file elements → ∃ later,
      Listed (directory.step platform label).file later ∧
        later.filter (fun element => !command.concerns element) =
          elements.filter (fun element => !command.concerns element)

/-! ## The list of devices -/

/-- A record of the list. -/
structure Entry where
  device : Dict
  name : PyStr
  fingerprint : PyStr
  enabled : Bool
  isName : lookup (py "id") device = some (.str name)
  isFingerprint : lookup (py "cert_sha256") device = some (.str fingerprint)
  isState : lookup (py "enabled") device = some (.bool enabled)

namespace Entry

def json (entry : Entry) : Json := .obj entry.device

/-- The entry of a new device. -/
def added (platform : Platform Key) (name : PyStr) (key : Key) (issued : Issued) : Entry where
  device := record platform name key issued
  name := name
  fingerprint := ofText issued.certSha256
  enabled := true
  isName := rfl
  isFingerprint := rfl
  isState := rfl

/-- The entry when it has been disabled. -/
def revoked (entry : Entry) (stamp : Text) : Entry where
  device := disabled stamp entry.device
  name := entry.name
  fingerprint := entry.fingerprint
  enabled := false
  isName := ((succeeds_disabled stamp entry.device).fields _ (by decide) (by decide)).trans
    entry.isName
  isFingerprint := ((succeeds_disabled stamp entry.device).fields _ (by decide) (by decide)).trans
    entry.isFingerprint
  isState := lookup_enabled_disabled stamp entry.device

/-- The first enabled entry with this value of a field. -/
def find (field : Entry → PyStr) (entries : List Entry) (wanted : PyStr) : Option Entry :=
  entries.find? fun entry => entry.enabled && decide (field entry = wanted)

theorem find_eq_some {field : Entry → PyStr} {entries : List Entry} {wanted : PyStr}
    {entry : Entry} (found : find field entries wanted = some entry) :
    entry ∈ entries ∧ entry.enabled = true ∧ field entry = wanted := by
  have holds := List.find?_some found
  simp only [Bool.and_eq_true, decide_eq_true_eq] at holds
  exact ⟨List.mem_of_find?_eq_some found, holds⟩

theorem find_eq_none {field : Entry → PyStr} {entries : List Entry} {wanted : PyStr} :
    find field entries wanted = none ↔
      ∀ entry ∈ entries, field entry = wanted → entry.enabled = false := by
  unfold find
  simp only [List.find?_eq_none, Bool.and_eq_true, decide_eq_true_eq, not_and,
    Bool.eq_false_iff]
  exact forall₂_congr fun entry _ => not_imp_not.symm.trans (by rw [not_not])

/-- Where no value stands twice, an enabled entry is found. -/
theorem find_of_mem {field : Entry → PyStr} {entries : List Entry}
    (distinct : (entries.map field).Nodup) {entry : Entry} (membership : entry ∈ entries)
    (enabled : entry.enabled = true) : find field entries (field entry) = some entry := by
  cases found : find field entries (field entry) with
  | none =>
      have disabled := find_eq_none.mp found entry membership rfl
      rw [enabled] at disabled
      contradiction
  | some other =>
      obtain ⟨isOther, _, same⟩ := find_eq_some found
      rw [List.inj_on_of_nodup_map distinct isOther membership same]

/-- A lookup in the list is one of the entries. -/
theorem deviceBy_entries {key : String} {field : Entry → PyStr}
    (isField : ∀ entry : Entry, lookup (py key) entry.device = some (.str (field entry)))
    (entries : List Entry) (wanted : PyStr) :
    deviceBy key wanted (entries.map json) = .ok ((find field entries wanted).map device) := by
  induction entries with
  | nil => rfl
  | cons entry entries inductionHypothesis =>
      have state : ((lookup (py "enabled") entry.device).getD (.bool true)).truthy =
          entry.enabled := by
        rw [entry.isState]
        rfl
      simp only [List.map_cons, json, deviceBy, state, isField entry, Json.str.injEq]
      unfold find
      by_cases enabled : entry.enabled = true
      · by_cases same : field entry = wanted
        · simp [enabled, same]
        · simpa [enabled, same, find] using inductionHypothesis
      · simpa [enabled, find] using inductionHypothesis

theorem anyId_entries (name : PyStr) (entries : List Entry) :
    anyId name (entries.map json) = .ok (entries.any fun entry => entry.name = name) := by
  induction entries with
  | nil => rfl
  | cons entry entries inductionHypothesis =>
      simp only [List.map_cons, json, anyId, entry.isName, Json.str.injEq, List.any_cons]
      by_cases same : entry.name = name
      · simp [same]
      · simpa [same] using inductionHypothesis

end Entry

/-- No name and no fingerprint stands twice; the registry shows the enabled entries, and
no retired fingerprint is one of theirs. -/
structure Tracks (registry : Registry) (entries : List Entry) (used : List PyStr) : Prop where
  names : (entries.map Entry.name).Nodup
  fingerprints : (entries.map Entry.fingerprint).Nodup
  issued : ∀ entry ∈ entries, entry.fingerprint ∈ used
  current : ∀ name, registry.current name = (Entry.find Entry.name entries name).map Entry.device
  retired : ∀ fingerprint, registry.retired fingerprint → fingerprint ∈ used ∧
    ∀ entry ∈ entries, entry.fingerprint = fingerprint → entry.enabled = false

/-- The file lists entries that the registry shows, or there is none. -/
def Sound (directory : Directory) (used : List PyStr) : Prop :=
  match directory.file with
  | none => directory.registry = .empty
  | some content => ∃ entries, Listed (some content) (entries.map Entry.json) ∧
      Tracks directory.registry entries used

theorem Tracks.shown {registry : Registry} {entries : List Entry} {used : List PyStr}
    (tracks : Tracks registry entries used) {name : PyStr} {device : Dict}
    (isCurrent : registry.current name = some device) :
    ∃ entry ∈ entries, entry.enabled = true ∧ entry.name = name ∧ entry.device = device := by
  rw [tracks.current] at isCurrent
  obtain ⟨entry, found, rfl⟩ := Option.map_eq_some_iff.mp isCurrent
  obtain ⟨membership, enabled, named⟩ := Entry.find_eq_some found
  exact ⟨entry, membership, enabled, named, rfl⟩

theorem Entry.bears_iff (entry : Entry) (fingerprint : PyStr) :
    Bears fingerprint entry.device ↔ entry.fingerprint = fingerprint := by
  rw [Bears, entry.isFingerprint, Option.some.injEq, Json.str.injEq]

/-- Such a registry is what the lookups show. -/
theorem Tracks.represents {registry : Registry} {entries : List Entry} {used : List PyStr}
    (tracks : Tracks registry entries used) {data : Dict}
    (isList : Devices data (entries.map Entry.json)) : Represents registry data := by
  have byFp (fingerprint : PyStr) : deviceByFp data fingerprint =
      .ok ((Entry.find Entry.fingerprint entries fingerprint).map Entry.device) := by
    rw [deviceByFp, isList.devices]
    exact Entry.deviceBy_entries Entry.isFingerprint entries fingerprint
  constructor
  · intro name
    rw [deviceById, isList.devices, tracks.current]
    exact Entry.deviceBy_entries Entry.isName entries name
  · intro name device fingerprint isCurrent bears
    obtain ⟨entry, membership, enabled, _, rfl⟩ := tracks.shown isCurrent
    rw [entry.bears_iff] at bears
    subst bears
    rw [byFp, Entry.find_of_mem tracks.fingerprints membership enabled]
    rfl
  · intro fingerprint unborne
    have absent : Entry.find Entry.fingerprint entries fingerprint = none := by
      rw [Entry.find_eq_none]
      intro entry membership same
      by_contra on
      have enabled := Bool.eq_true_of_not_eq_false on
      apply unborne entry.name entry.device _ ((entry.bears_iff _).mpr same)
      rw [tracks.current, Entry.find_of_mem tracks.names membership enabled]
      rfl
    rw [byFp, absent]
    rfl
  · intro fingerprint isRetired
    rw [byFp, Entry.find_eq_none.mpr (tracks.retired fingerprint isRetired).2]
    rfl

/-! ## What the commands do to it -/

theorem Tracks.nil {registry : Registry} {used : List PyStr}
    (none : ∀ name, registry.current name = none)
    (retired : ∀ fingerprint, registry.retired fingerprint → fingerprint ∈ used) :
    Tracks registry [] used where
  names := List.nodup_nil
  fingerprints := List.nodup_nil
  issued := by simp
  current name := none name
  retired fingerprint isRetired := ⟨retired fingerprint isRetired, by simp⟩

theorem Tracks.register {registry : Registry} {entries : List Entry} {used : List PyStr}
    (tracks : Tracks registry entries used) {entry : Entry} (enabled : entry.enabled = true)
    (newName : entry.name ∉ entries.map Entry.name) (fresh : entry.fingerprint ∉ used) :
    Tracks (registry.register entry.name entry.device) (entries ++ [entry])
      (entry.fingerprint :: used) where
  names := by
    rw [List.map_append, List.nodup_append]
    refine ⟨tracks.names, List.nodup_singleton _, ?_⟩
    rintro first inFirst second inSecond rfl
    rw [List.mem_singleton.mp inSecond] at inFirst
    exact newName inFirst
  fingerprints := by
    rw [List.map_append, List.nodup_append]
    refine ⟨tracks.fingerprints, List.nodup_singleton _, ?_⟩
    rintro first inFirst second inSecond rfl
    obtain ⟨other, isOther, rfl⟩ := List.mem_map.mp inFirst
    apply fresh
    rw [← List.mem_singleton.mp inSecond]
    exact tracks.issued other isOther
  issued := by
    rw [List.forall_mem_append, List.forall_mem_singleton]
    exact ⟨fun other isOther => List.mem_cons_of_mem _ (tracks.issued other isOther),
      List.mem_cons_self⟩
  current name := by
    simp only [Registry.register, Function.update_apply, Entry.find, List.find?_append]
    by_cases own : name = entry.name
    · subst own
      have absent : Entry.find Entry.name entries entry.name = none := by
        rw [Entry.find_eq_none]
        intro other isOther same
        exact absurd (List.mem_map.mpr ⟨other, isOther, same⟩) newName
      rw [Entry.find] at absent
      simp [absent, enabled]
    · have same := tracks.current name
      simp only [Entry.find] at same
      simp [own, Ne.symm own, same]
  retired fingerprint isRetired := by
    obtain ⟨isUsed, off⟩ := tracks.retired fingerprint isRetired
    refine ⟨List.mem_cons_of_mem _ isUsed, ?_⟩
    rw [List.forall_mem_append, List.forall_mem_singleton]
    refine ⟨off, fun same => absurd ?_ fresh⟩
    rw [same]
    exact isUsed

theorem Entry.mem_revoked {field : Entry → PyStr} {earlier later : List Entry}
    {entry other : Entry} {stamp : Text}
    (distinct : ((earlier ++ entry :: later).map field).Nodup)
    (membership : other ∈ earlier ++ entry.revoked stamp :: later) :
    other = entry.revoked stamp ∨
      other ∈ earlier ++ entry :: later ∧ field other ≠ field entry := by
  rw [List.map_append, List.map_cons, List.nodup_middle, List.nodup_cons, ← List.map_append]
    at distinct
  rw [List.mem_append, List.mem_cons] at membership ⊢
  have apart (isOther : other ∈ earlier ++ later) : field other ≠ field entry := fun same =>
    distinct.1 (List.mem_map.mpr ⟨other, isOther, same⟩)
  rcases membership with left | rfl | right
  · exact .inr ⟨.inl left, apart (List.mem_append_left _ left)⟩
  · exact .inl rfl
  · exact .inr ⟨.inr (.inr right), apart (List.mem_append_right _ right)⟩

theorem Tracks.revoke {registry : Registry} {earlier later : List Entry} {entry : Entry}
    {used : List PyStr} (tracks : Tracks registry (earlier ++ entry :: later) used)
    (stamp : Text) :
    Tracks (registry.revoke entry.name) (earlier ++ entry.revoked stamp :: later) used := by
  have names : (earlier ++ entry.revoked stamp :: later).map Entry.name =
      (earlier ++ entry :: later).map Entry.name := by
    simp [Entry.revoked]
  have fingerprints : (earlier ++ entry.revoked stamp :: later).map Entry.fingerprint =
      (earlier ++ entry :: later).map Entry.fingerprint := by
    simp [Entry.revoked]
  refine ⟨names ▸ tracks.names, fingerprints ▸ tracks.fingerprints, ?_, ?_, ?_⟩
  · intro other membership
    rcases Entry.mem_revoked tracks.fingerprints membership with rfl | ⟨old, _⟩
    · exact tracks.issued entry (by simp)
    · exact tracks.issued other old
  · intro name
    simp only [Registry.revoke, Function.update_apply]
    by_cases own : name = entry.name
    · have absent : Entry.find Entry.name (earlier ++ entry.revoked stamp :: later) name =
          none := by
        rw [Entry.find_eq_none]
        intro other membership same
        rcases Entry.mem_revoked tracks.names membership with rfl | ⟨_, different⟩
        · rfl
        · exact absurd (same.trans own) different
      rw [if_pos own, absent]
      rfl
    · rw [if_neg own, tracks.current]
      simp [Entry.find, List.find?_append, Entry.revoked, Ne.symm own]
  · rintro fingerprint (isRetired | ⟨device, isCurrent, bears⟩)
    · obtain ⟨isUsed, off⟩ := tracks.retired fingerprint isRetired
      refine ⟨isUsed, fun other membership same => ?_⟩
      rcases Entry.mem_revoked tracks.names membership with rfl | ⟨old, _⟩
      · rfl
      · exact off other old same
    · obtain ⟨own, membership, _, named, rfl⟩ := tracks.shown isCurrent
      obtain rfl : own = entry :=
        List.inj_on_of_nodup_map tracks.names membership (by simp) named
      rw [own.bears_iff] at bears
      subst bears
      refine ⟨tracks.issued own membership, fun other isOther same => ?_⟩
      rcases Entry.mem_revoked tracks.fingerprints isOther with rfl | ⟨_, different⟩
      · rfl
      · exact absurd same different

/-! ## Every call is lawful -/

/-- A command fails and leaves the file, or replaces it. -/
theorem command_cases (platform : Platform Key) (command : Command) (accesses : Accesses)
    (file : Option Bytes) :
    (∃ failure, command.run platform accesses file = (.error failure, file)) ∨
      ∃ after, command.update platform accesses file = some after ∧
        command.run platform accesses file = (attempt accesses.statAgainRaises, after) := by
  unfold Command.run Command.update save
  cases command.compute platform accesses file with
  | error failure => exact .inl ⟨failure, rfl⟩
  | ok data =>
      cases accesses.writeRaises with
      | some exc => exact .inl ⟨.raised exc, rfl⟩
      | none => exact .inr ⟨_, rfl, rfl⟩

theorem initData_eq_ok {platform : Platform Key} {arguments : InitArguments}
    {prepare : Option PyExc} {setup : Except PyExc Setup} {file : Option Bytes} {data : Dict}
    (computed : initData platform arguments prepare setup file = .ok data) :
    ∃ made, data = initialData arguments made := by
  unfold initData at computed
  obtain ⟨_, _, computed⟩ := bind_eq_ok.mp computed
  obtain ⟨_, _, computed⟩ := bind_eq_ok.mp computed
  split at computed
  · contradiction
  · obtain ⟨made, _, computed⟩ := bind_eq_ok.mp computed
    exact ⟨made, (Except.ok.inj computed).symm⟩

/-- So does `init`. -/
theorem init_cases (platform : Platform Key) (arguments : InitArguments)
    (prepare : Option PyExc) (setup : Except PyExc Setup) (accesses : Accesses)
    (file : Option Bytes) :
    let ran := Pair.init platform arguments prepare setup accesses file
    (∃ failure, ran = (.error failure, file)) ∨
      ∃ made, let written := some (encode (savedText (initialData arguments made)))
        ran = ((loadConfig accesses written).map fun _ => (), written) := by
  intro ran
  cases computed : initData platform arguments prepare setup file with
  | error failure =>
      refine .inl ⟨failure, ?_⟩
      simp only [ran, Pair.init, computed]
  | ok data =>
      cases wrote : accesses.writeRaises with
      | some exc =>
          refine .inl ⟨.raised exc, ?_⟩
          simp only [ran, Pair.init, computed, wrote]
      | none =>
          obtain ⟨made, rfl⟩ := initData_eq_ok computed
          refine .inr ⟨made, ?_⟩
          simp only [ran, Pair.init, computed, wrote]

/-- Nothing is raised behind the saving, and a name that is to be registered has no revoked
record. -/
structure Meets (platform : Platform Key) (directory : Directory) (label : Label) : Prop where
  reread : match label.call with
    | .init _ _ _ => label.accesses.readRaises = none ∧ label.accesses.statRaises = none
    | .command _ => label.accesses.statAgainRaises = none
  unrevoked : ∀ name phonePubkey key issued,
    label.call = .command (.addDevice name phonePubkey (.ok issued)) → idMatches name = true →
      loadPublicKey platform.crypto phonePubkey = .ok key → label.accesses = .calm →
        directory.registry.current name = none →
          ∀ elements device, Listed directory.file elements → .obj device ∈ elements →
            lookup (py "id") device ≠ some (.str name)

theorem Tracks.mono {registry : Registry} {entries : List Entry} {used : List PyStr}
    (tracks : Tracks registry entries used) (more : List PyStr) :
    Tracks registry entries (more ++ used) where
  names := tracks.names
  fingerprints := tracks.fingerprints
  issued entry membership := List.mem_append_right _ (tracks.issued entry membership)
  current := tracks.current
  retired fingerprint isRetired :=
    ⟨List.mem_append_right _ (tracks.retired fingerprint isRetired).1,
      (tracks.retired fingerprint isRetired).2⟩

theorem Sound.mono {directory : Directory} {used : List PyStr} (sound : Sound directory used)
    (more : List PyStr) : Sound directory (more ++ used) := by
  unfold Sound at sound ⊢
  split at sound
  · exact sound
  · obtain ⟨entries, listed, tracks⟩ := sound
    exact ⟨entries, listed, tracks.mono more⟩

/-- What has been registered was issued. -/
theorem Sound.used {directory : Directory} {used : List PyStr} (sound : Sound directory used)
    {fingerprint : PyStr} (retired : directory.registry.clear.retired fingerprint) :
    fingerprint ∈ used := by
  unfold Sound at sound
  split at sound
  · rw [sound] at retired
    rcases retired with isRetired | ⟨_, _, isCurrent, _⟩
    · contradiction
    · simp [Registry.empty] at isCurrent
  · obtain ⟨entries, listed, tracks⟩ := sound
    rcases retired with isRetired | ⟨_, _, isCurrent, bears⟩
    · exact (tracks.retired fingerprint isRetired).1
    · obtain ⟨entry, membership, _, _, rfl⟩ := tracks.shown isCurrent
      rw [entry.bears_iff] at bears
      rw [← bears]
      exact tracks.issued entry membership

theorem Sound.represents {directory : Directory} {used : List PyStr}
    (sound : Sound directory used) {content : Bytes} (isFile : directory.file = some content) :
    ∃ data, parseConfig content = .ok data ∧ Represents directory.registry data := by
  rw [Sound, isFile] at sound
  obtain ⟨entries, ⟨_, data, isSame, parsed, isList⟩, tracks⟩ := sound
  cases isSame
  exact ⟨data, parsed, tracks.represents isList⟩

theorem Sound.entries {directory : Directory} {used : List PyStr} (sound : Sound directory used)
    (isFile : directory.file ≠ none) :
    ∃ entries : List Entry, Listed directory.file (entries.map Entry.json) ∧
      Tracks directory.registry entries used := by
  unfold Sound at sound
  split at sound
  · contradiction
  next content isContent =>
    rw [isContent]
    exact sound

/-- A call that fails leaves everything. -/
theorem lawful_of_fails {platform : Platform Key} {directory : Directory} {label : Label}
    {used : List PyStr} (sound : Sound directory used) {failure : Failure}
    (ran : label.run platform directory.file = (.error failure, directory.file))
    (may : ∀ name phonePubkey key issued,
      label.call = .command (.addDevice name phonePubkey (.ok issued)) → idMatches name = true →
        loadPublicKey platform.crypto phonePubkey = .ok key → label.accesses = .calm →
          directory.file ≠ none → directory.registry.current name ≠ none) :
    Lawful platform directory label ∧ directory.step platform label = directory := by
  have same : directory.step platform label = directory := by
    rw [Directory.step, ran]
    rfl
  refine ⟨⟨?_, ?_, ?_, ?_⟩, same⟩
  · intro name phonePubkey key issued isCall valid loaded calm isFile none
    exact absurd none (may name phonePubkey key issued isCall valid loaded calm isFile)
  · intro _ _
    rw [ran]
  · rw [same]
    exact fun content isFile => sound.represents isFile
  · rw [same]
    exact fun command isCall elements listed => ⟨elements, listed, rfl⟩

theorem lawful_init {platform : Platform Key} {directory : Directory} {label : Label}
    {used : List PyStr} (sound : Sound directory used) {arguments : InitArguments}
    {prepare : Option PyExc} {setup : Except PyExc Setup}
    (isInit : label.call = .init arguments prepare setup)
    (reread : label.accesses.readRaises = none ∧ label.accesses.statRaises = none) :
    Lawful platform directory label ∧ Sound (directory.step platform label) used := by
  have ran : label.run platform directory.file =
      Pair.init platform arguments prepare setup label.accesses directory.file := by
    simp only [Label.run, isInit]
  rcases init_cases platform arguments prepare setup label.accesses directory.file with
    ⟨failure, fails⟩ | ⟨made, succeeds⟩
  · obtain ⟨lawful, same⟩ := lawful_of_fails sound (ran.trans fails) (by simp [isInit])
    rw [same]
    exact ⟨lawful, sound⟩
  · have listed := listed_initialData arguments made
    obtain ⟨content, data, isWritten, parsed, isList⟩ := listed
    have loads : loadConfig label.accesses (some content) = .ok data :=
      loadConfig_eq_ok.mpr ⟨reread.1, reread.2, content, rfl, parsed⟩
    simp only [isWritten, loads, Except.map] at succeeds
    have after : directory.step platform label = ⟨some content, directory.registry.clear⟩ := by
      rw [Directory.step, ran, succeeds]
      simp only [Registry.after, isInit]
    have soundAfter : Sound (directory.step platform label) used := by
      rw [after, Sound]
      refine ⟨[], ⟨content, data, rfl, parsed, isList⟩, ?_⟩
      exact .nil (fun _ => rfl) fun _ => sound.used
    refine ⟨⟨?_, ?_, fun _ isFile => soundAfter.represents isFile, ?_⟩, soundAfter⟩
    · simp [isInit]
    · simp [ran, succeeds]
    · simp [isInit]

/-- An addition that the name and the key allow is made. -/
theorem addDevice_succeeds {platform : Platform Key} {name phonePubkey : PyStr} {key : Key}
    {issued : Issued} {file : Option Bytes} {elements : List Json} (valid : idMatches name = true)
    (loaded : loadPublicKey platform.crypto phonePubkey = .ok key)
    (listed : Listed file elements) (absent : anyId name elements = .ok false) :
    ((Command.addDevice name phonePubkey (.ok issued)).run platform .calm file).1 = .ok () := by
  obtain ⟨content, data, rfl, parsed, isList⟩ := listed
  have computed : (Command.addDevice name phonePubkey (.ok issued)).compute platform .calm
      (some content) = .ok (assign (py "devices")
        (.arr (elements ++ [.obj (record platform name key issued)])) data) := by
    refine Command.compute_eq_ok.mpr ⟨by simp [Command.check, valid, pure, Except.pure], data,
      loadConfig_eq_ok.mpr ⟨rfl, rfl, content, rfl, parsed⟩, ?_⟩
    exact addDevice_eq_ok.mpr ⟨elements, key, issued, isList, absent, loaded, rfl, rfl⟩
  simp only [Command.run, computed]
  rfl

/-- The entries after a command, among which those of other names are kept. -/
theorem Tracks.changes {platform : Platform Key} {registry : Registry} {entries : List Entry}
    {used : List PyStr} (tracks : Tracks registry entries used) {command : Command}
    {changed : List Json} (changes : Changes platform command (entries.map Entry.json) changed)
    (fresh : ∀ fingerprint ∈ (Call.command command).fingerprint, fingerprint ∉ used) :
    (∃ later, changed = later.map Entry.json ∧
      Tracks (registry.after platform (.command command) (.ok ())) later
        ((Call.command command).fingerprint.toList ++ used)) ∧
    changed.filter (fun element => !command.concerns element) =
      (entries.map Entry.json).filter (fun element => !command.concerns element) := by
  generalize same : entries.map Entry.json = elements at changes
  cases changes with
  | adds name phonePubkey key issued _ valid absent loaded =>
      subst same
      constructor
      · refine ⟨entries ++ [.added platform name key issued], by simp [Entry.json, Entry.added], ?_⟩
        have newName : name ∉ entries.map Entry.name := by
          rw [Entry.anyId_entries, Except.ok.injEq, List.any_eq_false] at absent
          intro membership
          obtain ⟨entry, isEntry, same⟩ := List.mem_map.mp membership
          exact absent entry isEntry (by simpa using same)
        have registered : registry.after platform (.command (.addDevice name phonePubkey
            (.ok issued))) (.ok ()) = registry.register name (record platform name key issued) := by
          simp only [Registry.after, loaded]
        rw [registered]
        have enabled : (Entry.added platform name key issued).enabled = true := rfl
        exact tracks.register enabled newName (fresh _ rfl)
      · have own : (Command.addDevice name phonePubkey (.ok issued)).concerns
            (.obj (record platform name key issued)) = true := decide_eq_true rfl
        rw [List.filter_append, List.filter_cons_of_neg (by simp [own])]
        simp
  | revokes name stamp _ found revoked =>
      obtain ⟨first, device, last, isWhole, rfl, named, _⟩ := revokeIn_cases revoked
      rw [← same] at isWhole
      obtain ⟨earlier, rest, rfl, rfl, isRest⟩ := List.map_eq_append_iff.mp isWhole
      obtain ⟨entry, later, rfl, isDevice, rfl⟩ := List.map_eq_cons_iff.mp isRest
      obtain rfl : entry.device = device := Json.obj.inj isDevice
      obtain rfl : entry.name = name := by
        rw [entry.isName] at named
        exact Json.str.inj (Option.some.inj named)
      constructor
      · refine ⟨earlier ++ entry.revoked stamp :: later, by simp [Entry.json, Entry.revoked], ?_⟩
        exact tracks.revoke stamp
      · have own : (Command.revokeDevice entry.name stamp).concerns (.obj entry.device) = true :=
          decide_eq_true entry.isName
        have stillOwn : (Command.revokeDevice entry.name stamp).concerns
            (.obj (disabled stamp entry.device)) = true :=
          decide_eq_true (entry.revoked stamp).isName
        rw [← same, List.map_append, List.map_cons, Entry.json, List.filter_append,
          List.filter_append, List.filter_cons_of_neg (by simp [stillOwn]),
          List.filter_cons_of_neg (by simp [own])]
  | keeps ip loadKey issueServer =>
      subst same
      exact ⟨⟨entries, rfl, tracks⟩, rfl⟩

theorem lawful_command {platform : Platform Key} {directory : Directory} {label : Label}
    {used : List PyStr} (sound : Sound directory used) {command : Command}
    (isCommand : label.call = .command command) (meets : Meets platform directory label)
    (fresh : ∀ fingerprint ∈ label.call.fingerprint, fingerprint ∉ used) :
    Lawful platform directory label ∧
      Sound (directory.step platform label) (label.call.fingerprint.toList ++ used) := by
  have ran : label.run platform directory.file =
      command.run platform label.accesses directory.file := by
    simp only [Label.run, isCommand]
  have quiet : label.accesses.statAgainRaises = none := by
    have reread := meets.reread
    rw [isCommand] at reread
    exact reread
  rcases command_cases platform command label.accesses directory.file with
    ⟨failure, fails⟩ | ⟨after, updates, succeeds⟩
  · have may : ∀ name phonePubkey key issued,
        label.call = .command (.addDevice name phonePubkey (.ok issued)) → idMatches name = true →
          loadPublicKey platform.crypto phonePubkey = .ok key → label.accesses = .calm →
            directory.file ≠ none → directory.registry.current name ≠ none := by
      intro name phonePubkey key issued isCall valid loaded calm isFile absent
      have unrevoked := meets.unrevoked name phonePubkey key issued isCall valid loaded calm absent
      obtain ⟨entries, listed, _⟩ := sound.entries isFile
      have noEntry : anyId name (entries.map Entry.json) = .ok false := by
        rw [Entry.anyId_entries, Except.ok.injEq, List.any_eq_false]
        intro entry membership same
        apply unrevoked _ entry.device listed (List.mem_map_of_mem membership)
        rw [entry.isName, of_decide_eq_true same]
      have returned : ((Command.addDevice name phonePubkey (.ok issued)).run platform .calm
          directory.file).1 = .ok () := addDevice_succeeds valid loaded listed noEntry
      obtain rfl : command = .addDevice name phonePubkey (.ok issued) :=
        Call.command.inj (isCommand.symm.trans isCall)
      rw [← calm, fails] at returned
      contradiction
    obtain ⟨lawful, same⟩ := lawful_of_fails sound (ran.trans fails) may
    rw [same]
    exact ⟨lawful, sound.mono _⟩
  · rw [quiet] at succeeds
    have step : directory.step platform label =
        ⟨after, directory.registry.after platform label.call (.ok ())⟩ := by
      rw [Directory.step, ran, succeeds]
      rfl
    have isFile : directory.file ≠ none := by
      obtain ⟨content, _, _, isContent, _⟩ := update_eq_some updates
      rw [isContent]
      exact Option.some_ne_none content
    obtain ⟨entries, listed, tracks⟩ := sound.entries isFile
    obtain ⟨changed, isChanged, changes⟩ := update_changes updates listed
    obtain ⟨⟨later, rfl, tracksLater⟩, others⟩ := tracks.changes changes (isCommand ▸ fresh)
    have soundAfter : Sound (directory.step platform label)
        (label.call.fingerprint.toList ++ used) := by
      rw [step, isCommand]
      cases after with
      | none =>
          obtain ⟨_, _, isSome, _⟩ := isChanged
          contradiction
      | some content => exact ⟨later, isChanged, tracksLater⟩
    refine ⟨⟨?_, ?_, fun _ isContent => soundAfter.represents isContent, ?_⟩, soundAfter⟩
    · intro _ _ _ _ _ _ _ _ _ _
      rw [ran, succeeds]
      rfl
    · intro failure fails
      rw [ran, succeeds] at fails
      contradiction
    · intro own isOwn elements isListed
      obtain rfl := Call.command.inj (isCommand.symm.trans isOwn)
      obtain rfl := listed.unique isListed
      rw [step]
      exact ⟨_, isChanged, others⟩

theorem lawful_step {platform : Platform Key} {directory : Directory} {label : Label}
    {used : List PyStr} (sound : Sound directory used) (meets : Meets platform directory label)
    (fresh : ∀ fingerprint ∈ label.call.fingerprint, fingerprint ∉ used) :
    Lawful platform directory label ∧
      Sound (directory.step platform label) (label.call.fingerprint.toList ++ used) := by
  cases isCall : label.call with
  | init arguments prepare setup =>
      have reread := meets.reread
      rw [isCall] at reread
      exact lawful_init sound isCall reread
  | command command =>
      rw [← isCall]
      exact lawful_command sound isCall meets fresh

/-- In every sequence of calls in which nothing is raised behind a saving and no name with a
revoked record is registered again, the devices are a partial map: every call is lawful. -/
theorem registry_lawful (platform : Platform Key) (labels : List Label)
    (distinct : (labels.filterMap fun label => label.call.fingerprint).Nodup)
    (meets : Along (Directory.step platform) (Meets platform) Directory.start labels) :
    Along (Directory.step platform) (Lawful platform) Directory.start labels := by
  suffices general : ∀ (directory : Directory) (used : List PyStr), Sound directory used →
      (∀ label ∈ labels, ∀ fingerprint ∈ label.call.fingerprint, fingerprint ∉ used) →
      Along (Directory.step platform) (Meets platform) directory labels →
        Along (Directory.step platform) (Lawful platform) directory labels by
    have sound : Sound Directory.start [] := rfl
    exact general _ [] sound (by simp) meets
  clear meets
  induction labels with
  | nil => exact fun _ _ _ _ _ => trivial
  | cons label labels inductionHypothesis =>
      intro directory used sound fresh meets
      rw [List.forall_mem_cons] at fresh
      obtain ⟨lawful, soundAfter⟩ := lawful_step sound meets.1 fresh.1
      have apart : ∀ other ∈ labels, ∀ fingerprint ∈ other.call.fingerprint,
          fingerprint ∉ label.call.fingerprint.toList ++ used := by
        intro other later fingerprint isOwn membership
        rcases List.mem_append.mp membership with isFirst | isUsed
        · rw [List.filterMap_cons, Option.mem_toList.mp isFirst] at distinct
          exact (List.nodup_cons.mp distinct).1 (List.mem_filterMap.mpr ⟨other, later, isOwn⟩)
        · exact fresh.2 other later fingerprint isOwn isUsed
      refine ⟨lawful, inductionHypothesis ?_ _ _ soundAfter apart meets.2⟩
      exact ((List.sublist_cons_self label labels).filterMap _).nodup distinct

/-! ## A phone that is registered again -/

def sampleInit : Label where
  call := .init ⟨py "10.0.0.1", 8765, py "laptop", py "user", py "correct horse", false⟩ none
    (.ok ⟨"key".toList, "ru-topic".toList⟩)
  accesses := .calm

def addPhone (certSha256 : String) : Label where
  call := .command (.addDevice (py "phone") (py "key")
    (.ok ⟨certSha256.toList, "2024-01-01".toList, "2025-01-01".toList⟩))
  accesses := .calm

def revokePhone : Label := ⟨.command (.revokeDevice (py "phone") "2024-06-01".toList), .calm⟩

theorem registered_lawful :
    Along (Directory.step samplePlatform) (Lawful samplePlatform) Directory.start
      [sampleInit, addPhone "aa", revokePhone] := by
  apply registry_lawful
  · decide
  · have written : (Directory.start.step samplePlatform sampleInit).file = some (encode (savedText
        (initialData ⟨py "10.0.0.1", 8765, py "laptop", py "user", py "correct horse", false⟩
          ⟨"key".toList, "ru-topic".toList⟩))) := rfl
    refine ⟨⟨⟨rfl, rfl⟩, ?_⟩, ⟨rfl, ?_⟩, ⟨rfl, ?_⟩, trivial⟩
    · intro name phonePubkey key issued isCall
      simp [sampleInit] at isCall
    · intro name phonePubkey key issued isCall valid loaded calm absent elements device listed
      rw [written] at listed
      rw [listed.unique (listed_initialData _ _)]
      exact fun membership => absurd membership List.not_mem_nil
    · intro name phonePubkey key issued isCall
      simp [revokePhone] at isCall

/-- Not every sequence of calls is lawful: a phone that was revoked is refused. -/
theorem not_registry_lawful :
    let labels := [sampleInit, addPhone "aa", revokePhone, addPhone "bb"]
    (labels.filterMap fun label => label.call.fingerprint).Nodup ∧
      ¬ Along (Directory.step samplePlatform) (Lawful samplePlatform) Directory.start labels := by
  refine ⟨by decide, fun along => ?_⟩
  have lawful := along.2.2.2.1
  generalize reached : ((Directory.start.step samplePlatform sampleInit).step samplePlatform
    (addPhone "aa")).step samplePlatform revokePhone = directory at lawful
  have facts : directory.file.isSome = true ∧
      (directory.registry.current (py "phone")).isNone = true ∧
      ((addPhone "bb").run samplePlatform directory.file).1.isOk = false := by
    subst reached
    decide +kernel
  obtain ⟨isFile, absent, refused⟩ := facts
  have returned := lawful.succeeds (py "phone") (py "key") () _ rfl (by decide) rfl rfl
    (Option.isSome_iff_ne_none.mp isFile) (Option.isNone_iff_eq_none.mp absent)
  rw [returned] at refused
  contradiction

end RemoteUnlock.Pair
