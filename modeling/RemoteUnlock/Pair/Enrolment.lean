import RemoteUnlock.Listener.Authorisation
import RemoteUnlock.Listener.PamRequest
import RemoteUnlock.Listener.Revocation
import RemoteUnlock.Pair.Registry

/-!
# Enrolment

Whom the service lets in is decided by `config.json`, which the calls of `pair.py` write.
`Stands` says what they can leave in the file, one after the other or at the same time, and
`Managed` what any of it says: the fields are those of an `init`, and an enabled device is one
that `add_device` has added.  Where nothing else writes the file, a login is therefore let
through only for the user of an `init` and behind a phone that was enrolled
(`logins_enrolled`).
-/

namespace RemoteUnlock.Pair

open Python Python.Items Common

variable {Key : Type} {platform : Platform Key} {calls : List Label}

/-! ## What calls leave in the file -/

/-- What `config.json` can be where only these calls write it.  A call works on what the file
was at some time, which others may have replaced since. -/
inductive Stands (platform : Platform Key) (calls : List Label) : Option Bytes → Prop where
  | nothing : Stands platform calls none
  | call (label : Label) (made : label ∈ calls) {file : Option Bytes}
      (stands : Stands platform calls file) :
      Stands platform calls (label.run platform file).2

/-- A record that one of the calls has made. -/
def Enrolled (platform : Platform Key) (calls : List Label) (device : Dict) : Prop :=
  ∃ name phonePubkey key issued accesses,
    (⟨.command (.addDevice name phonePubkey (.ok issued)), accesses⟩ : Label) ∈ calls ∧
      loadPublicKey platform.crypto phonePubkey = .ok key ∧
      device = record platform name key issued

/-- An element of the list is disabled or made by one of the calls. -/
def Vetted (platform : Platform Key) (calls : List Label) (element : Json) : Prop :=
  ∃ device, element = .obj device ∧ (isEnabled device = true → Enrolled platform calls device)

/-- The fields are those of a call of `init`, apart from the two that commands change. -/
def SetUp (calls : List Label) (data : Dict) : Prop :=
  ∃ arguments prepare setup accesses,
    (⟨.init arguments prepare (.ok setup), accesses⟩ : Label) ∈ calls ∧
      idMatches arguments.targetId = true ∧
      ∀ key, key ≠ py "devices" → key ≠ py "listener_ip" →
        lookup key data = (lookup key (initialData arguments setup)).map reloaded

/-- The data come from these calls. -/
structure Managed (platform : Platform Key) (calls : List Label) (data : Dict) : Prop where
  setUp : SetUp calls data
  devices : ∃ elements, Devices data elements ∧ ∀ element ∈ elements, Vetted platform calls element

/-! ## The fields -/

theorem lookup_parsed {data read : Dict} (plain : PlainKeys data)
    (parsed : parseConfig (encode (savedText data)) = .ok read) (key : PyStr) :
    lookup key read = ((lookup key data).map reloaded).or (lookup key defaults) := by
  rw [parseConfig_saved plain, Except.ok.injEq] at parsed
  rw [← parsed, lookup_saved]

/-- A field that a new configuration lacks has no default either. -/
theorem lookup_defaults_of_initialData {arguments : InitArguments} {setup : Setup} {key : PyStr}
    (absent : lookup key (initialData arguments setup) = none) : lookup key defaults = none := by
  rw [initialData, lookup_update, Option.or_eq_none_iff] at absent
  exact absent.2

theorem SetUp.of_init {arguments : InitArguments} {prepare : Option PyExc} {setup : Setup}
    {accesses : Accesses} {read : Dict}
    (made : (⟨.init arguments prepare (.ok setup), accesses⟩ : Label) ∈ calls)
    (valid : idMatches arguments.targetId = true)
    (parsed : parseConfig (encode (savedText (initialData arguments setup))) = .ok read) :
    SetUp calls read := by
  refine ⟨arguments, prepare, setup, accesses, made, valid, fun key _ _ => ?_⟩
  rw [lookup_parsed (plainKeys_initialData arguments setup) parsed]
  cases found : lookup key (initialData arguments setup) with
  | none => exact lookup_defaults_of_initialData found
  | some value => rfl

/-- A command gives one of two fields another value. -/
theorem plan_assigns {command : Command} {data saved : Dict}
    (planned : command.plan platform data = .ok saved) :
    ∃ key value, (key = py "devices" ∨ key = py "listener_ip") ∧ saved = assign key value data := by
  cases command with
  | addDevice name phonePubkey issue =>
      obtain ⟨elements, key, issued, _, _, _, _, rfl⟩ := addDevice_eq_ok.mp planned
      exact ⟨_, _, .inl rfl, rfl⟩
  | revokeDevice name stamp =>
      obtain ⟨elements, found, _, _, rfl⟩ := revokeDevice_eq_ok.mp planned
      exact ⟨_, _, .inl rfl, rfl⟩
  | renewServer ip loadKey issueServer =>
      obtain ⟨newIp, rfl⟩ := renewServer_eq_ok planned
      exact ⟨_, _, .inr rfl, rfl⟩

theorem SetUp.planned {command : Command} {data saved read : Dict} (setUp : SetUp calls data)
    (clean : CleanData data) (planned : command.plan platform data = .ok saved)
    (parsed : parseConfig (encode (savedText saved)) = .ok read) : SetUp calls read := by
  obtain ⟨arguments, prepare, setup, accesses, made, valid, fields⟩ := setUp
  obtain ⟨changed, value, isChanged, rfl⟩ := plan_assigns planned
  have plain : PlainKeys (assign changed value data) := by
    rcases isChanged with rfl | rfl <;> exact clean.1.assign (PyStr.joinPairs_py _) value
  refine ⟨arguments, prepare, setup, accesses, made, valid, fun key notDevices notIp => ?_⟩
  have other : key ≠ changed := by
    rcases isChanged with rfl | rfl
    · exact notDevices
    · exact notIp
  have field := fields key notDevices notIp
  rw [lookup_parsed plain parsed, lookup_assign_of_ne other]
  cases found : lookup key data with
  | none =>
      rw [found] at field
      have absent := Option.map_eq_none_iff.mp field.symm
      rw [absent]
      exact lookup_defaults_of_initialData absent
  | some own =>
      have settled : reloaded own = own := (clean.2 _ (mem_of_lookup found)).settled
      rw [← field, found, Option.map_some, settled]
      rfl

/-- The fields that decide about a login. -/
structure Decides (arguments : InitArguments) (data : Dict) : Prop where
  requireMtls : lookup (py "require_mtls") data = some (.bool true)
  challengeTtl : lookup (py "challenge_ttl") data = some (.int 10)
  grantTtl : lookup (py "grant_ttl") data = some (.int 20)
  allowedUids : lookup (py "pam_allowed_uids") data = some (.arr [.int 0])
  targetId : lookup (py "target_id") data = some (.str arguments.targetId)
  unlockUser : lookup (py "unlock_user") data = some (.str arguments.unlockUser.joinPairs)

theorem SetUp.decides {data : Dict} (setUp : SetUp calls data) :
    ∃ arguments prepare setup accesses,
      (⟨.init arguments prepare (.ok setup), accesses⟩ : Label) ∈ calls ∧
        Decides arguments data := by
  obtain ⟨arguments, prepare, setup, accesses, made, valid, fields⟩ := setUp
  have field (key : String) (value : Json) (notDevices : py key ≠ py "devices")
      (notIp : py key ≠ py "listener_ip")
      (isValue : lookup (py key) (initialData arguments setup) = some value) :
      lookup (py key) data = some (reloaded value) := by
    rw [fields _ notDevices notIp, isValue, Option.map_some]
  refine ⟨arguments, prepare, setup, accesses, made, ?_, ?_, ?_, ?_, ?_, ?_⟩
  · exact field "require_mtls" (.bool true) (by decide) (by decide) rfl
  · exact field "challenge_ttl" (.int 10) (by decide) (by decide) rfl
  · exact field "grant_ttl" (.int 20) (by decide) (by decide) rfl
  · exact field "pam_allowed_uids" (.arr [.int 0]) (by decide) (by decide) rfl
  · have target := field "target_id" (.str arguments.targetId) (by decide) (by decide) rfl
    rwa [reloaded_str, joinPairs_of_idMatches valid] at target
  · have user := field "unlock_user" (.str arguments.unlockUser) (by decide) (by decide) rfl
    rwa [reloaded_str] at user

/-! ## The devices -/

theorem Changes.vetted {command : Command} {accesses : Accesses} {elements changed : List Json}
    (changes : Changes platform command elements changed)
    (made : (⟨.command command, accesses⟩ : Label) ∈ calls)
    (vetted : ∀ element ∈ elements, Vetted platform calls element) :
    ∀ element ∈ changed, Vetted platform calls element := by
  cases changes with
  | adds name phonePubkey key issued _ _ _ loaded =>
      rw [List.forall_mem_append, List.forall_mem_singleton]
      exact ⟨vetted, _, rfl, fun _ => ⟨name, phonePubkey, key, issued, accesses, made, loaded, rfl⟩⟩
  | revokes name stamp _ _ revoked =>
      obtain ⟨earlier, device, later, rfl, rfl, _⟩ := revokeIn_cases revoked
      rw [List.forall_mem_append, List.forall_mem_cons] at vetted ⊢
      refine ⟨vetted.1, ⟨_, rfl, fun enabled => ?_⟩, vetted.2.2⟩
      rw [isEnabled_disabled] at enabled
      contradiction
  | keeps => exact vetted

/-- An enabled device was added by one of the calls. -/
theorem Managed.enrolled {data device : Dict} (managed : Managed platform calls data)
    (enabled : EnabledIn data device) : Enrolled platform calls device := by
  obtain ⟨elements, isList, vetted⟩ := managed.devices
  obtain ⟨isOn, own, isOwn, membership⟩ := enabled
  obtain rfl := Except.ok.inj (isOwn.symm.trans isList.devices)
  obtain ⟨found, same, enrolled⟩ := vetted _ membership
  obtain rfl := Json.obj.inj same
  exact enrolled isOn

/-! ## What the calls leave -/

theorem InitArguments.targetId_of_check {arguments : InitArguments}
    (checked : arguments.check platform = .ok ()) : idMatches arguments.targetId = true := by
  by_contra invalid
  rw [Bool.not_eq_true] at invalid
  unfold InitArguments.check at checked
  split at checked
  · contradiction
  · simp [throw, throwThe, MonadExceptOf.throw] at checked

/-- `init` leaves the file or puts a new configuration in its place. -/
theorem init_leaves (platform : Platform Key) (arguments : InitArguments)
    (prepare : Option PyExc) (setup : Except PyExc Setup) (accesses : Accesses)
    (file : Option Bytes) :
    let left := (Pair.init platform arguments prepare setup accesses file).2
    left = file ∨ ∃ made, setup = .ok made ∧ idMatches arguments.targetId = true ∧
      left = some (encode (savedText (initialData arguments made))) := by
  intro left
  cases computed : initData platform arguments prepare setup file with
  | error failure =>
      left
      simp only [left, Pair.init, computed]
  | ok data =>
      cases wrote : accesses.writeRaises with
      | some exc =>
          left
          simp only [left, Pair.init, computed, wrote]
      | none =>
          right
          have written : left = some (encode (savedText data)) := by
            simp only [left, Pair.init, computed, wrote]
          unfold initData at computed
          obtain ⟨_, checked, computed⟩ := bind_eq_ok.mp computed
          obtain ⟨_, _, computed⟩ := bind_eq_ok.mp computed
          split at computed
          · contradiction
          · obtain ⟨made, isMade, computed⟩ := bind_eq_ok.mp computed
            rw [raising_eq_ok] at isMade
            obtain rfl := Except.ok.inj computed
            exact ⟨made, isMade, InitArguments.targetId_of_check checked, written⟩

theorem managed_init {arguments : InitArguments} {prepare : Option PyExc} {setup : Setup}
    {accesses : Accesses}
    (made : (⟨.init arguments prepare (.ok setup), accesses⟩ : Label) ∈ calls)
    (valid : idMatches arguments.targetId = true) :
    ∃ data, parseConfig (encode (savedText (initialData arguments setup))) = .ok data ∧
      Managed platform calls data := by
  obtain ⟨content, data, isContent, parsed, isList⟩ := listed_initialData arguments setup
  obtain rfl := Option.some.inj isContent
  exact ⟨data, parsed, .of_init made valid parsed, [], isList, by simp⟩

theorem managed_update {command : Command} {accesses : Accesses} {before after : Bytes}
    {data : Dict} (made : (⟨.command command, accesses⟩ : Label) ∈ calls)
    (updates : command.update platform accesses (some before) = some (some after))
    (parsed : parseConfig before = .ok data) (managed : Managed platform calls data) :
    ∃ read, parseConfig after = .ok read ∧ Managed platform calls read := by
  obtain ⟨elements, isList, vetted⟩ := managed.devices
  obtain ⟨changed, ⟨content, read, isContent, isRead, isChanged⟩, changes⟩ :=
    update_changes updates ⟨before, data, rfl, parsed, isList⟩
  obtain rfl := Option.some.inj isContent
  obtain ⟨own, other, saved, isOwn, again, _, planned, isSaved⟩ := update_eq_some updates
  obtain rfl := Option.some.inj isOwn
  obtain rfl := Except.ok.inj (parsed.symm.trans again)
  obtain rfl := Option.some.inj isSaved
  exact ⟨read, isRead, managed.setUp.planned (cleanData_of_parseConfig parsed) planned isRead,
    changed, isChanged, changes.vetted made vetted⟩

/-- Whatever the calls leave can be loaded, and comes from them. -/
theorem Stands.managed {file : Option Bytes} (stands : Stands platform calls file) :
    ∀ content ∈ file, ∃ data, parseConfig content = .ok data ∧ Managed platform calls data := by
  induction stands with
  | nothing => simp
  | @call label made file _ inductionHypothesis =>
      obtain ⟨call, accesses⟩ := label
      cases call with
      | init arguments prepare setup =>
          change ∀ content ∈ (Pair.init platform arguments prepare setup accesses file).2, _
          rcases init_leaves platform arguments prepare setup accesses file with
            same | ⟨own, rfl, valid, written⟩
          · rw [same]
            exact inductionHypothesis
          · rw [written]
            rintro content ⟨⟩
            exact managed_init made valid
      | command command =>
          change ∀ content ∈ (command.run platform accesses file).2, _
          rw [Command.run_file]
          cases updates : command.update platform accesses file with
          | none => exact inductionHypothesis
          | some after =>
              rintro content isContent
              obtain ⟨before, _, _, rfl, _⟩ := update_eq_some updates
              obtain ⟨data, parsed, managed⟩ := inductionHypothesis before rfl
              obtain rfl : after = some content := isContent
              exact managed_update made updates parsed managed

end RemoteUnlock.Pair

namespace RemoteUnlock.Listener

open Python Python.Items Common Library

variable {Key : Type} {platform : Platform Key} {pair : Pair.Platform Key}
  {calls : List Pair.Label}

/-! ## The configuration of the service -/

/-- The change is what one of the calls leaves. -/
def ByCall (pair : Pair.Platform Key) (calls : List Pair.Label) : FileChange → Prop
  | .put content _ => Pair.Stands pair calls (some content)
  | .revoke name stamp _ => ⟨.command (.revokeDevice name stamp), .calm⟩ ∈ calls

theorem stands_change {file : ConfigFile} {change : FileChange}
    (stands : Pair.Stands pair calls (some file.content)) (byCall : ByCall pair calls change) :
    Pair.Stands pair calls (some (file.change change).content) := by
  cases change with
  | put content mtime => exact byCall
  | revoke name stamp mtime =>
      simp only [ConfigFile.change]
      split
      next content saves =>
        have left : Pair.Stands pair calls ((Pair.Command.revokeDevice name stamp).run pair .calm
            (some file.content)).2 := Pair.Stands.call _ byCall stands
        rwa [Pair.Command.run_file, update_of_revokeDevice saves pair] at left
      · exact stands

theorem stands_changes {file : ConfigFile} {changes : List FileChange}
    (stands : Pair.Stands pair calls (some file.content))
    (byCalls : ∀ change ∈ changes, ByCall pair calls change) :
    Pair.Stands pair calls (some (changes.foldl ConfigFile.change file).content) := by
  induction changes generalizing file with
  | nil => exact stands
  | cons change changes inductionHypothesis =>
      rw [List.forall_mem_cons] at byCalls
      exact inductionHypothesis (stands_change stands byCalls.1) byCalls.2

/-- The file is what calls have left, and so was what the configuration was loaded from. -/
structure Administered (pair : Pair.Platform Key) (calls : List Pair.Label)
    (state : ConfigState) : Prop where
  file : Pair.Stands pair calls (some state.file.content)
  data : Pair.Managed pair calls state.config.data

theorem managed_of_parse {content : Bytes} {data : Dict}
    (stands : Pair.Stands pair calls (some content)) (parsed : parseConfig content = .ok data) :
    Pair.Managed pair calls data := by
  obtain ⟨own, isOwn, managed⟩ := stands.managed content rfl
  rwa [Except.ok.inj (parsed.symm.trans isOwn)]

theorem Administered.changed {state : ConfigState} {changes : List FileChange}
    (administered : Administered pair calls state)
    (byCalls : ∀ change ∈ changes, ByCall pair calls change) :
    Administered pair calls (state.changed changes) :=
  ⟨stands_changes administered.file byCalls, administered.data⟩

theorem Administered.reloaded {state : ConfigState} {access : FileAccess}
    (administered : Administered pair calls state)
    (byCalls : ∀ change ∈ access.beforeRead ++ access.beforeStat, ByCall pair calls change) :
    Administered pair calls (reloadIfChanged access state).2 := by
  rw [List.forall_mem_append] at byCalls
  have read := administered.changed byCalls.1
  cases reloadIfChanged_cases access state with
  | kept same =>
      rw [same]
      exact administered
  | failed _ same =>
      rw [same]
      exact read
  | loaded data _ parsed hasData file =>
      refine ⟨?_, ?_⟩
      · rw [file]
        exact (read.changed byCalls.2).file
      · rw [hasData]
        exact managed_of_parse read.file parsed

/-- A configuration that could be opened has been read. -/
theorem openConfig_parsed {access : FileAccess} {file : ConfigFile}
    (opened : (openConfig access file).1 = .ok ()) :
    parseConfig file.content = .ok (openConfig access file).2.config.data ∧
      (openConfig access file).2.file = access.beforeStat.foldl ConfigFile.change file := by
  unfold openConfig at opened ⊢
  rcases reload_cases access ⟨⟨[], none⟩, file, by simp⟩ with
    ⟨_, raises | ⟨exc, fails⟩⟩ | ⟨data, parsed, hasData, changed, _⟩
  · obtain ⟨exc, isRaised⟩ := Option.isSome_iff_exists.mp raises
    simp [reload, Py.bind_apply, isRaised] at opened
  · cases read : access.readRaises <;> simp [reload, Py.bind_apply, read, fails] at opened
  · rw [hasData]
    exact ⟨parsed, changed⟩

/-! ## The world of the service -/

/-- So was every configuration the service has worked with. -/
def World.Administered (pair : Pair.Platform Key) (calls : List Pair.Label)
    (world : World platform) : Prop :=
  Listener.Administered pair calls world.service.config ∧
    ∀ data ∈ world.loaded, Pair.Managed pair calls data

theorem StepCase.loaded_mem {before after : World platform} {label : Label}
    (moved : StepCase before label after) {data : Dict} (membership : data ∈ after.loaded) :
    data ∈ before.loaded ∨ data = after.service.data := by
  cases moved with
  | idle => exact .inl membership
  | _ =>
      rcases List.mem_append.mp membership with old | isNew
      · exact .inl old
      · exact .inr (List.mem_singleton.mp isNew)

theorem step_administered {world : World platform} {label : Label}
    (administered : world.Administered pair calls)
    (byCalls : ∀ change ∈ label.changes, ByCall pair calls change) :
    (step world label).Administered pair calls := by
  have moved := step_cases world label
  generalize Listener.step world label = after at moved
  have config : Listener.Administered pair calls after.service.config := by
    cases moved.config with
    | same equal =>
        rw [equal]
        exact administered.1
    | change change isChange changed =>
        subst isChange
        rw [changed]
        exact administered.1.changed byCalls
    | reload session peer access answers connects reloaded =>
        subst connects
        rw [reloaded]
        exact administered.1.reloaded byCalls
  refine ⟨config, fun data membership => ?_⟩
  rcases moved.loaded_mem membership with old | rfl
  · exact administered.2 data old
  · exact config.data

/-- The service was started on a file that calls have left. -/
structure Setup.Administered (pair : Pair.Platform Key) (calls : List Pair.Label)
    (setup : Setup) : Prop where
  file : Pair.Stands pair calls (some setup.file.content)
  access : ∀ change ∈ setup.access.beforeStat, ByCall pair calls change

theorem Setup.Administered.opened {setup : Setup} (administered : setup.Administered pair calls) :
    Listener.Administered pair calls (openConfig setup.access setup.file).2 := by
  obtain ⟨parsed, changed⟩ := openConfig_parsed setup.opened
  refine ⟨?_, managed_of_parse administered.file parsed⟩
  rw [changed]
  exact stands_changes administered.file administered.access

theorem after_administered (platform : Platform Key) {setup : Setup} {labels : List Label}
    (administered : setup.Administered pair calls)
    (byCalls : ∀ label ∈ labels, ∀ change ∈ label.changes, ByCall pair calls change) :
    (World.after platform setup labels).Administered pair calls := by
  have start : (World.start platform setup).Administered pair calls := by
    have opened : Listener.Administered pair calls
        (World.start platform setup).service.config := by
      obtain ⟨_, _, _, _, _, same⟩ := setup.service_eq
      rw [World.start, same]
      exact administered.opened
    refine ⟨opened, fun data membership => ?_⟩
    rw [List.mem_singleton.mp membership]
    exact opened.data
  exact run_invariant_along (fun _ _ holds byCalls => step_administered holds byCalls) start
    (Along.of_mem (fun _ label membership => byCalls label membership) _)

/-! ## Grants -/

/-- `pair.py` and the service use the same library, and a key that is written to the file is
the one that is read. -/
structure SharesKeys (platform : Platform Key) (pair : Pair.Platform Key) : Prop where
  crypto : pair.crypto = platform.crypto
  reads : ∀ text key, loadPublicKey platform.crypto text = .ok key →
    loadPublicKey platform.crypto (ofText (pair.publicPem key)) = .ok key

/-- The response of the grant is signed with this key, for the laptop of an `init`. -/
def SignedWith (platform : Platform Key) (calls : List Pair.Label) (grant : Grant) (key : Key) :
    Prop :=
  ∃ arguments prepare setup accesses message,
    (⟨.init arguments prepare (.ok setup), accesses⟩ : Pair.Label) ∈ calls ∧
      signedMessage (py "response") grant.nonce grant.entry.issuedMs grant.identity.deviceId
        arguments.targetId = .ok message ∧
      verifySig platform.crypto key message grant.signature = true

/-- One of the calls has added the device of the grant: with the key that has signed the
response and with the certificate of the connection. -/
structure Entitled (platform : Platform Key) (calls : List Pair.Label) (grant : Grant) : Prop where
  enrolled : ∃ phonePubkey key issued accesses,
    (⟨.command (.addDevice grant.identity.deviceId phonePubkey (.ok issued)), accesses⟩ :
        Pair.Label) ∈ calls ∧
      loadPublicKey platform.crypto phonePubkey = .ok key ∧
      SignedWith platform calls grant key ∧
      ∃ der, grant.peer.certificate = .ok (some der) ∧
        platform.sha.hexdigest der = issued.certSha256
  inTime : grant.time - grant.entry.issued ≤ 10

theorem item_of_lookup {mapping : Dict} {key : String} {value other : Json}
    (found : lookup (py key) mapping = some value) (isItem : item mapping key = .ok other) :
    other = value :=
  Option.some.inj ((item_eq_ok isItem).symm.trans found)

theorem Sound.entitled {loaded : List Dict} {grant : Grant} (sound : Sound platform loaded grant)
    (shares : SharesKeys platform pair) (managed : ∀ data ∈ loaded, Pair.Managed pair calls data) :
    Entitled platform calls grant := by
  obtain ⟨inData, inIdentity, inLookup⟩ := sound.loaded
  obtain ⟨arguments, prepare, setup, accesses, isInit, decides⟩ := (managed _ inData).setUp.decides
  constructor
  · obtain ⟨name, phonePubkey, key, issued, own, made, isKey, isRecord⟩ :=
      (managed _ inLookup).enrolled sound.enabled
    rw [shares.crypto] at isKey
    have named : name = grant.identity.deviceId := by
      have identifier := item_eq_ok sound.identifier
      rw [isRecord] at identifier
      exact Json.str.inj (Option.some.inj identifier)
    refine ⟨phonePubkey, key, issued, own, named ▸ made, isKey, ?_, ?_⟩
    · obtain ⟨target, message, pem, used, isTarget, built, isPem, isUsed, verified⟩ :=
        sound.verified
      obtain rfl := Json.str.inj (item_of_lookup decides.targetId isTarget)
      have written : pem = .str (ofText (pair.publicPem key)) := by
        apply item_of_lookup _ isPem
        rw [isRecord]
        rfl
      rw [written, loadKey, shares.reads _ _ isKey, Except.ok.injEq] at isUsed
      subst isUsed
      exact ⟨arguments, prepare, setup, accesses, message, isInit, built, verified⟩
    · obtain ⟨_, _, _, _, _, identityDecides⟩ := (managed _ inIdentity).setUp.decides
      obtain ⟨required, isRequired, demands⟩ := sound.certified
      rw [item_of_lookup identityDecides.requireMtls isRequired] at demands
      obtain ⟨der, presented, pinned⟩ := demands rfl
      rw [isRecord] at pinned
      exact ⟨der, presented, ofText_injective (Json.str.inj (Option.some.inj pinned)).symm⟩
  · obtain ⟨ttl, isTtl, _, inTime⟩ := sound.inTime
    rw [item_of_lookup decides.challengeTtl isTtl] at inTime
    exact inTime 10 rfl

/-! ## Logins -/

/-- A request of root for the user of an `init`. -/
structure Requested (calls : List Pair.Label) (taking : Taking) : Prop where
  byRoot : taking.uid = 0
  user : ∃ arguments prepare setup accesses,
    (⟨.init arguments prepare (.ok setup), accesses⟩ : Pair.Label) ∈ calls ∧
      lookup (py "user") taking.request = some (.str arguments.unlockUser.joinPairs)

/-- What equals a string in Python is this string. -/
theorem eq_str_of_pyEq {value : Json} {text : PyStr} (equal : value.pyEq (.str text) = true) :
    value = .str text := by
  unfold Json.pyEq at equal
  rw [Bool.and_eq_true] at equal
  have same := equal.2
  cases value with
  | str own => exact (of_decide_eq_true same).symm
  | float number =>
      cases number <;> simp [Json.sameElement, Json.number] at same
  | _ => simp [Json.sameElement, Json.number] at same

theorem Cleared.requested {taking : Taking} (cleared : Cleared taking)
    (managed : ∀ data ∈ taking.datas, Pair.Managed pair calls data) : Requested calls taking := by
  have inUid := managed taking.uidData (by simp [Taking.datas])
  have inUser := managed taking.userData (by simp [Taking.datas])
  constructor
  · obtain ⟨_, _, _, _, _, decides⟩ := inUid.setUp.decides
    have allowed := cleared.uid
    unfold uidAllowed at allowed
    obtain ⟨uids, isUids, contained⟩ := bind_eq_ok.mp allowed
    rw [item_of_lookup decides.allowedUids isUids] at contained
    simpa [Json.containsNumber, compared, Json.number, eq_comm] using contained
  · obtain ⟨arguments, prepare, setup, accesses, isInit, decides⟩ := inUser.setUp.decides
    refine ⟨arguments, prepare, setup, accesses, isInit, ?_⟩
    have same := cleared.user
    unfold userMatches at same
    obtain ⟨user, isUser, equal⟩ := bind_eq_ok.mp same
    rw [item_of_lookup decides.unlockUser isUser] at equal
    have pyEqual := Except.ok.inj equal
    cases named : lookup (py "user") taking.request with
    | none => simp [named, Json.pyEq, Json.sameElement] at pyEqual
    | some value =>
        rw [named, Option.getD_some] at pyEqual
        rw [eq_str_of_pyEq pyEqual]

/-- Where nothing but calls of `pair.py` writes `config.json`, whatever they have loaded and in
whatever order they save, every grant is issued for a device that one of the calls has added:
its key has signed the response and its certificate is that of the connection.  The
replies `1` map to such grants, no two of them to the same one, each taken in less than 20
seconds by a request of root for the user of an `init`. -/
theorem logins_enrolled (platform : Platform Key) {pair : Pair.Platform Key}
    (shares : SharesKeys platform pair) {calls : List Pair.Label} {setup : Setup}
    (administered : setup.Administered pair calls) {labels : List Label}
    (byCalls : ∀ label ∈ labels, ∀ change ∈ label.changes, ByCall pair calls change) :
    let history := (World.after platform setup labels).service.history
    (∀ session grant, .grant session grant ∈ history → Entitled platform calls grant) ∧
      ∃ origin : ℕ → ℕ,
        (∀ (position request : ℕ) (taking : Taking),
          history[position]? = some (.granted request taking) → Requested calls taking ∧
            ∃ session grant, history[origin position]? = some (.grant session grant) ∧
              Entitled platform calls grant ∧ grant.time ≤ taking.time ∧
              taking.time - grant.time < 20) ∧
        ∀ (first second firstRequest secondRequest : ℕ) (firstTaking secondTaking : Taking),
          history[first]? = some (.granted firstRequest firstTaking) →
          history[second]? = some (.granted secondRequest secondTaking) →
          origin first = origin second → first = second := by
  intro history
  have managed := (after_administered platform administered byCalls).2
  have entitled : ∀ session grant, .grant session grant ∈ history →
      Entitled platform calls grant := by
    intro session grant membership
    obtain ⟨origin, sound, _⟩ := (after_authorised platform setup labels).2.origin
    obtain ⟨position, found⟩ := List.mem_iff_getElem?.mp membership
    exact (sound position session grant found).2.2.entitled shares managed
  have isTtl : UnlockService.number (openConfig setup.access setup.file).2.config.data "grant_ttl" =
      some 20 := by
    obtain ⟨_, _, _, _, _, decides⟩ := administered.opened.data.setUp.decides
    rw [UnlockService.number, decides.grantTtl]
    rfl
  obtain ⟨origin, found, injective⟩ := (after_redeemed platform setup labels isTtl).origin
  refine ⟨entitled, origin, fun position request taking isGranted => ?_, injective⟩
  obtain ⟨_, _, session, grant, isGrant, order, inTime, cleared, dated⟩ :=
    found position request taking isGranted
  refine ⟨cleared.requested fun data membership => managed data (dated membership), session, grant,
    isGrant, entitled session grant (List.mem_of_getElem? isGrant), order, inTime⟩

/-! ## A phone that is enrolled and revoked -/

def phoneIssued : Pair.Issued := ⟨"f01".toList, "2024-01-01".toList, "2025-01-01".toList⟩

def laptopArguments : Pair.InitArguments :=
  ⟨py "10.0.0.1", 8765, py "laptop", py "alice", py "correct horse", false⟩

def laptopKeys : Pair.Setup := ⟨"key".toList, "ru-topic".toList⟩

def laptopInit : Pair.Label := ⟨.init laptopArguments none (.ok laptopKeys), .calm⟩

def phoneAdded : Pair.Label :=
  ⟨.command (.addDevice (py "phone") (py "BEGIN") (.ok phoneIssued)), .calm⟩

def phoneCalls : List Pair.Label := [laptopInit, phoneAdded, Pair.revokePhone]

/-- The sample platform, where every line asks for the user of the laptop. -/
def phonePlatform : Platform Unit :=
  { samplePlatform with loadsBytes := fun _ => .ok (.obj [(py "user", .str (py "alice"))]) }

def phonePair : Pair.Platform Unit :=
  ⟨phonePlatform.crypto, fun _ => "BEGIN".toList, fun _ => none, py "config.json"⟩

/-- The data when the phone has been added. -/
def phoneData : Dict :=
  assign (py "devices") (.arr [.obj (Pair.record phonePair (py "phone") () phoneIssued)])
    (Pair.initialData laptopArguments laptopKeys)

def phoneFile : ConfigFile := sampleFile.replace (encode (savedText phoneData)) 2

theorem stands_phoneFile : Pair.Stands phonePair phoneCalls (some phoneFile.content) := by
  have start : Pair.Stands phonePair phoneCalls (laptopInit.run phonePair none).2 :=
    .call laptopInit (by simp [phoneCalls]) .nothing
  have added := Pair.Stands.call phoneAdded (by simp [phoneCalls]) start
  have left : (phoneAdded.run phonePair (laptopInit.run phonePair none).2).2 =
      some phoneFile.content := by decide +kernel
  rwa [left] at added

theorem parseConfig_phoneFile : parseConfig phoneFile.content = .ok phoneData := by
  decide +kernel

def phoneSetup : Setup where
  file := phoneFile
  access := .calm
  audit := .fresh
  now := sampleSetup.now
  service := ⟨.loaded phoneFile phoneData, .empty, .new 3 30 3600, .new 3 30 3600, .new 20, 0,
    .empty, .fresh, [], sampleSetup.now, [], [], []⟩
  opened := by rw [openConfig_calm parseConfig_phoneFile]
  started := by
    rw [openConfig_calm parseConfig_phoneFile]
    rfl

/-- The phone unlocks the laptop, a helper asks, and the phone is revoked. -/
def phoneLabels : List Label :=
  [.connect 0 ⟨py "100.64.0.2", .ok (some [1])⟩ .calm calmAnswers,
    .resume 0 (.text sampleHello) calmAnswers, .resume 0 (.finished none) calmAnswers,
    .resume 0 (.text sampleResponse) calmAnswers, .pamConnect 0 (.ok ⟨1, 0⟩) calmAnswers,
    .pamResume 0 (.line []) calmAnswers,
    .change (.revoke (py "phone") "2024-06-01".toList 3)]

/-- The login of the phone is one. -/
theorem logins_enrolled_phoneLabels :
    let history := (World.after phonePlatform phoneSetup phoneLabels).service.history
    ∃ session grant request taking,
      .grant session grant ∈ history ∧ .granted request taking ∈ history ∧
        Entitled phonePlatform phoneCalls grant ∧ Requested phoneCalls taking := by
  intro history
  have shares : SharesKeys phonePlatform phonePair := ⟨rfl, fun _ _ _ => rfl⟩
  have administered : phoneSetup.Administered phonePair phoneCalls :=
    ⟨stands_phoneFile, fun _ membership => absurd membership List.not_mem_nil⟩
  have byCalls : ∀ label ∈ phoneLabels, ∀ change ∈ label.changes,
      ByCall phonePair phoneCalls change := by
    simp [phoneLabels, Label.changes, FileAccess.calm, ByCall, phoneCalls, Pair.revokePhone]
  obtain ⟨_, origin, found, _⟩ := logins_enrolled phonePlatform shares administered byCalls
  have answered : history.any (fun event => (repliesTo event).isSome) = true := by
    decide +kernel
  obtain ⟨event, membership, replies⟩ := List.any_eq_true.mp answered
  cases event with
  | granted request taking =>
      obtain ⟨position, isGranted⟩ := List.mem_iff_getElem?.mp membership
      obtain ⟨requested, session, grant, isGrant, entitled, _⟩ :=
        found position request taking isGranted
      exact ⟨session, grant, request, taking, List.mem_of_getElem? isGrant, membership, entitled,
        requested⟩
  | _ => simp [repliesTo] at replies

end RemoteUnlock.Listener
