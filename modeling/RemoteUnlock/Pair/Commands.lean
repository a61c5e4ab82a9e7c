import RemoteUnlock.Common.Save
import RemoteUnlock.Common.SignedMessage

/-!
# The commands of `pair.py`

`add_device`, `revoke_device` and `renew_server` load `config.json`, work on the data and
save all of it; `init` writes a new one.  What a command does to the list of devices is
said once, by `update_changes`.
-/

namespace RemoteUnlock.Pair

open Python Python.Items Common

/-- Why a command does not return: `SystemExit` with a text, or an exception. -/
inductive Failure where
  | exit (message : PyStr)
  | raised (exc : PyExc)

/-- What the commands use of the libraries. -/
structure Platform (Key : Type) where
  crypto : Crypto Key
  /-- `public_pem(key)` -/
  publicPem : Key → Text
  /-- What `ipaddress.ip_address(ip)` raises. -/
  ipAddress : PyStr → Option PyExc
  /-- The name of `config.json` as it appears in a message. -/
  path : PyStr

/-- What the accesses of a command to `config.json` raise. -/
structure Accesses where
  readRaises : Option PyExc
  statRaises : Option PyExc
  writeRaises : Option PyExc
  statAgainRaises : Option PyExc

/-- No access raises. -/
def Accesses.calm : Accesses := ⟨none, none, none, none⟩

def attempt (raises : Option PyExc) : Except Failure Unit :=
  match raises with
  | none => .ok ()
  | some exc => .error (.raised exc)

def raising {α : Type} (result : Except PyExc α) : Except Failure α :=
  match result with
  | .ok value => .ok value
  | .error exc => .error (.raised exc)

/-! ## Loading and saving -/

/-- `Config(cfg_dir / "config.json")` -/
def loadConfig (accesses : Accesses) (file : Option Bytes) : Except Failure Dict := do
  attempt accesses.readRaises
  match file with
  | none => throw (.raised .osError)
  | some content =>
      let data ← raising (parseConfig content)
      attempt accesses.statRaises
      pure data

/-- `cfg.save()` -/
def save (accesses : Accesses) (data : Dict) (file : Option Bytes) :
    Except Failure Unit × Option Bytes :=
  match accesses.writeRaises with
  | some exc => (.error (.raised exc), file)
  | none => (attempt accesses.statAgainRaises, some (encode (savedText data)))

/-! ## The commands -/

/-- What is told of a client certificate. -/
structure Issued where
  certSha256 : Text
  created : Text
  certExpires : Text

/-- A command with its arguments and what it gets from the clock, the random source and
the key files. -/
inductive Command where
  | addDevice (name phonePubkey : PyStr) (issue : Except PyExc Issued)
  | revokeDevice (name : PyStr) (revoked : Text)
  | renewServer (ip : Option PyStr) (loadKey : Option PyExc)
      (issueServer : Json → Json → Option PyExc)

/-- `any(d["id"] == name for d in devices)` -/
def anyId (name : PyStr) : List Json → Except PyExc Bool
  | [] => .ok false
  | .obj device :: rest =>
      match lookup (py "id") device with
      | none => .error .keyError
      | some identifier => if identifier = .str name then .ok true else anyId name rest
  | _ :: _ => .error .typeError

variable {Key : Type} (platform : Platform Key)

/-- The record of a new device. -/
def record (name : PyStr) (key : Key) (issued : Issued) : Dict :=
  [(py "id", .str name), (py "public_key_pem", .str (ofText (platform.publicPem key))),
    (py "cert_sha256", .str (ofText issued.certSha256)), (py "enabled", .bool true),
    (py "created", .str (ofText issued.created)),
    (py "cert_expires", .str (ofText issued.certExpires))]

/-- `cfg[key]` -/
def item (key : PyStr) (data : Dict) : Except Failure Json :=
  match lookup key data with
  | none => .error (.raised .keyError)
  | some value => .ok value

/-- `add_device`, from the loaded data to those it saves. -/
def addDevice (name phonePubkey : PyStr) (issue : Except PyExc Issued) (data : Dict) :
    Except Failure Dict := do
  if ← raising ((devices data).bind (anyId name)) then
    throw (.exit (py "device '" ++ name ++ py "' already exists (revoke it first to re-issue)"))
  else do
    let key ← raising (loadPublicKey platform.crypto phonePubkey)
    let issued ← raising issue
    match lookup (py "devices") data with
    | some (.arr elements) =>
        pure (assign (py "devices")
          (.arr (elements ++ [.obj (record platform name key issued)])) data)
    | _ => throw (.raised .attributeError)

/-- `revoke_device`, from the loaded data to those it saves. -/
def revokeDevice (name : PyStr) (revoked : Text) (data : Dict) : Except Failure Dict := do
  match ← raising ((devices data).bind (revokeIn name revoked)) with
  | none => throw (.exit (py "no such device: " ++ name))
  | some elements => pure (assign (py "devices") (.arr elements) data)

/-- `ip or cfg["listener_ip"]` -/
def address (ip : Option PyStr) (data : Dict) : Except Failure Json :=
  match ip with
  | some (point :: rest) => .ok (.str (point :: rest))
  | _ => item (py "listener_ip") data

/-- `renew_server`, from the loaded data to those it saves. -/
def renewServer (ip : Option PyStr) (loadKey : Option PyExc)
    (issueServer : Json → Json → Option PyExc) (data : Dict) : Except Failure Dict := do
  attempt loadKey
  let ip ← address ip data
  attempt (issueServer (← item (py "target_id") data) ip)
  pure (assign (py "listener_ip") ip data)

/-- What a command checks before it loads anything. -/
def Command.check : Command → Except Failure Unit
  | .addDevice name _ _ =>
      if idMatches name then pure ()
      else throw (.exit (py "device name must match [a-z0-9][a-z0-9-]*"))
  | _ => pure ()

def Command.plan : Command → Dict → Except Failure Dict
  | .addDevice name phonePubkey issue => Pair.addDevice platform name phonePubkey issue
  | .revokeDevice name revoked => Pair.revokeDevice name revoked
  | .renewServer ip loadKey issueServer => Pair.renewServer ip loadKey issueServer

/-- A command up to its `cfg.save()`. -/
def Command.compute (command : Command) (accesses : Accesses) (file : Option Bytes) :
    Except Failure Dict := do
  command.check
  let data ← loadConfig accesses file
  command.plan platform data

/-- A command on `config.json`. -/
def Command.run (command : Command) (accesses : Accesses) (file : Option Bytes) :
    Except Failure Unit × Option Bytes :=
  match command.compute platform accesses file with
  | .error failure => (.error failure, file)
  | .ok data => save accesses data file

/-- What a command that has read the file puts in its place, if anything. -/
def Command.update (command : Command) (accesses : Accesses) (file : Option Bytes) :
    Option (Option Bytes) :=
  match command.compute platform accesses file, accesses.writeRaises with
  | .ok data, none => some (some (encode (savedText data)))
  | _, _ => none

/-! ## A new configuration -/

def minPassphrase : ℕ := 12

structure InitArguments where
  ip : PyStr
  port : ℤ
  targetId : PyStr
  unlockUser : PyStr
  passphrase : PyStr
  force : Bool

/-- What `init` makes besides the configuration, as far as it appears there. -/
structure Setup where
  laptopPublicKeyPem : Text
  topic : Text

/-- What `init` checks in front of touching the directory. -/
def InitArguments.check (arguments : InitArguments) : Except Failure Unit := do
  if arguments.passphrase.length < minPassphrase then
    throw (.exit (py "Passphrase must be at least 12 characters."))
  else if idMatches arguments.targetId = false then
    throw (.exit (py "target-id must match [a-z0-9][a-z0-9-]* (max 63 chars)"))
  else do
    attempt (platform.ipAddress arguments.ip)
    if arguments.ip = py "0.0.0.0" ∨ arguments.ip = py "::" then
      throw (.exit (py "Give the specific Tailscale/WireGuard/LAN IP, not a wildcard."))
    else pure ()

/-- The data of a new configuration. -/
def initialData (arguments : InitArguments) (setup : Setup) : Dict :=
  update defaults
    [(py "target_id", .str arguments.targetId), (py "listener_ip", .str arguments.ip),
      (py "listener_port", .int arguments.port), (py "unlock_user", .str arguments.unlockUser),
      (py "laptop_public_key_pem", .str (ofText setup.laptopPublicKeyPem)),
      (py "tls", .obj [(py "ca_cert", .str (py "ca-cert.pem")),
        (py "server_cert", .str (py "server-cert.pem")),
        (py "server_key", .str (py "server-key.pem"))]),
      (py "signing_key", .str (py "laptop-signing-key.pem")),
      (py "alerts", .obj [(py "ntfy", .obj [(py "server", .str (py "https://ntfy.sh")),
        (py "topic", .str (ofText setup.topic)), (py "token", .null)])])]

/-- `init` up to the writing of `config.json`. -/
def initData (arguments : InitArguments) (prepare : Option PyExc) (setup : Except PyExc Setup)
    (file : Option Bytes) : Except Failure Dict := do
  arguments.check platform
  attempt prepare
  if file.isSome ∧ arguments.force = false then
    throw (.exit (platform.path ++
      py " exists. Use --force to overwrite (this revokes everything)."))
  else do
    let setup ← raising setup
    pure (initialData arguments setup)

/-- `init` on `config.json`, which it loads again when it has written it. -/
def init (arguments : InitArguments) (prepare : Option PyExc) (setup : Except PyExc Setup)
    (accesses : Accesses) (file : Option Bytes) : Except Failure Unit × Option Bytes :=
  match initData platform arguments prepare setup file, accesses.writeRaises with
  | .error failure, _ => (.error failure, file)
  | .ok _, some exc => (.error (.raised exc), file)
  | .ok data, none =>
      let written := some (encode (savedText data))
      ((loadConfig accesses written).map fun _ => (), written)

variable {platform}

theorem Command.run_file (command : Command) (accesses : Accesses) (file : Option Bytes) :
    (command.run platform accesses file).2 = (command.update platform accesses file).getD file := by
  unfold Command.run Command.update save
  cases command.compute platform accesses file with
  | error failure => rfl
  | ok data => cases accesses.writeRaises <;> rfl

/-! ## What a command saves -/

@[simp]
theorem attempt_eq_ok {raises : Option PyExc} {done : Unit} :
    attempt raises = .ok done ↔ raises = none := by
  cases raises <;> simp [attempt]

@[simp]
theorem raising_eq_ok {α : Type} {result : Except PyExc α} {value : α} :
    raising result = .ok value ↔ result = .ok value := by
  cases result <;> simp [raising]

theorem loadConfig_eq_ok {accesses : Accesses} {file : Option Bytes} {data : Dict} :
    loadConfig accesses file = .ok data ↔
      accesses.readRaises = none ∧ accesses.statRaises = none ∧
        ∃ content, file = some content ∧ parseConfig content = .ok data := by
  cases file with
  | none => simp [loadConfig, bind_eq_ok, throw, throwThe, MonadExceptOf.throw]
  | some content =>
      simp only [loadConfig, bind_eq_ok, attempt_eq_ok, raising_eq_ok, pure, Except.pure,
        Except.ok.injEq, Option.some.injEq]
      constructor
      · rintro ⟨_, read, data, parsed, _, again, rfl⟩
        exact ⟨read, again, content, rfl, parsed⟩
      · rintro ⟨read, again, _, rfl, parsed⟩
        exact ⟨(), read, data, parsed, (), again, rfl⟩

/-- A list of devices in loaded data. -/
def Devices (data : Dict) (elements : List Json) : Prop :=
  lookup (py "devices") data = some (.arr elements)

theorem Devices.devices {data : Dict} {elements : List Json} (isList : Devices data elements) :
    devices data = .ok elements := by
  have found : lookup (py "devices") data = some (.arr elements) := isList
  rw [Common.devices, found]
  rfl

theorem addDevice_eq_ok {name phonePubkey : PyStr} {issue : Except PyExc Issued}
    {data after : Dict} :
    addDevice platform name phonePubkey issue data = .ok after ↔
      ∃ elements key issued, Devices data elements ∧ anyId name elements = .ok false ∧
        loadPublicKey platform.crypto phonePubkey = .ok key ∧ issue = .ok issued ∧
        after = assign (py "devices")
          (.arr (elements ++ [.obj (record platform name key issued)])) data := by
  constructor
  · intro computed
    unfold addDevice at computed
    obtain ⟨exists_, checked, computed⟩ := bind_eq_ok.mp computed
    rw [raising_eq_ok] at checked
    split at computed
    · contradiction
    next absent =>
      obtain ⟨key, loaded, computed⟩ := bind_eq_ok.mp computed
      obtain ⟨issued, made, computed⟩ := bind_eq_ok.mp computed
      rw [raising_eq_ok] at loaded made
      split at computed
      next elements isList =>
        have isDevices : Devices data elements := isList
        rw [isDevices.devices, Bool.eq_false_of_not_eq_true absent] at checked
        exact ⟨elements, key, issued, isList, checked, loaded, made, (Except.ok.inj computed).symm⟩
      · contradiction
  · rintro ⟨elements, key, issued, isList, checked, loaded, made, rfl⟩
    have found : lookup (py "devices") data = some (.arr elements) := isList
    have checked : (devices data).bind (anyId name) = .ok false := by
      rw [isList.devices]
      exact checked
    rw [addDevice, checked]
    simp [loaded, made, found, raising, bind, Except.bind, pure, Except.pure]

theorem iterate_of_found {name : PyStr} {stamp : Text} {value : Json} {elements found : List Json}
    (iterated : value.iterate = some elements)
    (revoked : revokeIn name stamp elements = .ok (some found)) : value = .arr elements := by
  cases value with
  | arr inner =>
      cases iterated
      rfl
  | str text =>
      cases iterated
      cases text <;> simp [revokeIn] at revoked
  | obj members =>
      cases iterated
      cases members <;> simp [revokeIn] at revoked
  | _ => contradiction

theorem revokeDevice_eq_ok {name : PyStr} {stamp : Text} {data after : Dict} :
    revokeDevice name stamp data = .ok after ↔
      ∃ elements found, Devices data elements ∧
        revokeIn name stamp elements = .ok (some found) ∧
        after = assign (py "devices") (.arr found) data := by
  constructor
  · intro computed
    unfold revokeDevice at computed
    obtain ⟨result, revoked, computed⟩ := bind_eq_ok.mp computed
    rw [raising_eq_ok] at revoked
    split at computed
    · contradiction
    next found =>
      obtain ⟨elements, iterated, revoked⟩ := bind_eq_ok.mp revoked
      unfold Common.devices at iterated
      split at iterated
      · contradiction
      next value present =>
        split at iterated
        · contradiction
        next inner isIterable =>
          obtain rfl := Except.ok.inj iterated
          rw [iterate_of_found isIterable revoked] at present
          exact ⟨inner, found, present, revoked, (Except.ok.inj computed).symm⟩
  · rintro ⟨elements, found, isList, revoked, rfl⟩
    have searched : (devices data).bind (revokeIn name stamp) = .ok (some found) := by
      rw [isList.devices]
      exact revoked
    rw [revokeDevice, searched]
    rfl

theorem renewServer_eq_ok {ip : Option PyStr} {loadKey : Option PyExc}
    {issueServer : Json → Json → Option PyExc} {data after : Dict}
    (computed : renewServer ip loadKey issueServer data = .ok after) :
    ∃ newIp, after = assign (py "listener_ip") newIp data := by
  unfold renewServer at computed
  obtain ⟨_, _, computed⟩ := bind_eq_ok.mp computed
  obtain ⟨newIp, _, computed⟩ := bind_eq_ok.mp computed
  obtain ⟨_, _, computed⟩ := bind_eq_ok.mp computed
  obtain ⟨_, _, computed⟩ := bind_eq_ok.mp computed
  exact ⟨newIp, (Except.ok.inj computed).symm⟩

/-! ## The devices of `config.json` -/

/-- The file can be loaded and lists these devices. -/
def Listed (file : Option Bytes) (elements : List Json) : Prop :=
  ∃ content data, file = some content ∧ parseConfig content = .ok data ∧ Devices data elements

theorem Listed.unique {file : Option Bytes} {first second : List Json}
    (listed : Listed file first) (again : Listed file second) : first = second := by
  obtain ⟨content, data, rfl, parsed, isFirst⟩ := listed
  obtain ⟨_, other, isSame, parsedAgain, isSecond⟩ := again
  cases isSame
  obtain rfl := Except.ok.inj (parsed.symm.trans parsedAgain)
  have same := isFirst.symm.trans isSecond
  exact Json.arr.inj (Option.some.inj same)

theorem clean_devices {data : Dict} {elements : List Json} (clean : CleanData data)
    (isList : Devices data elements) : ∀ element ∈ elements, Settled element :=
  fun element membership =>
    ((clean.2 _ (mem_of_lookup isList)).elements element membership).settled

/-- What is saved can be loaded, and lists the same devices. -/
theorem listed_saved {data : Dict} {elements : List Json} (plain : PlainKeys data)
    (isList : Devices data elements) (settled : ∀ element ∈ elements, Settled element) :
    Listed (some (encode (savedText data))) elements := by
  refine ⟨_, _, rfl, parseConfig_saved plain, ?_⟩
  have same : reloaded (.arr elements) = .arr elements := settled_arr settled
  have found : lookup (py "devices") data = some (.arr elements) := isList
  rw [Devices, lookup_saved, found, Option.map_some, same]
  rfl

theorem joinPairs_of_idMatches {name : PyStr} (valid : idMatches name = true) :
    PyStr.joinPairs name = name :=
  joinPairs_of_plain (plain_of_idMatches valid)

theorem settled_record {name : PyStr} (key : Key) (issued : Issued)
    (valid : PyStr.joinPairs name = name) :
    Settled (.obj (record platform name key issued)) := by
  apply settled_obj
  · unfold PlainKeys record
    simp only [List.forall_mem_cons, PyStr.joinPairs_py, true_and]
    exact fun member absent => absurd absent List.not_mem_nil
  · change [py "id", py "public_key_pem", py "cert_sha256", py "enabled", py "created",
      py "cert_expires"].Nodup
    decide
  · have named : Settled (.str name) := by simp [Settled, valid]
    unfold record
    simp only [List.forall_mem_cons]
    exact ⟨named, settled_text _, settled_text _, settled_bool _, settled_text _, settled_text _,
      fun member absent => absurd absent List.not_mem_nil⟩

/-- A record that `revoke_device` has disabled. -/
def disabled (stamp : Text) (device : Dict) : Dict :=
  assign (py "revoked") (.str (ofText stamp)) (assign (py "enabled") (.bool false) device)

theorem lookup_enabled_disabled (stamp : Text) (device : Dict) :
    lookup (py "enabled") (disabled stamp device) = some (.bool false) := by
  rw [disabled, lookup_assign_of_ne (by decide), lookup_assign_self]

/-- The first record of the name is disabled, the others are kept. -/
theorem revokeIn_cases {name : PyStr} {stamp : Text} {elements found : List Json}
    (revoked : revokeIn name stamp elements = .ok (some found)) :
    ∃ earlier device later, elements = earlier ++ .obj device :: later ∧
      found = earlier ++ .obj (disabled stamp device) :: later ∧
      lookup (py "id") device = some (.str name) ∧ anyId name earlier = .ok false := by
  fun_induction revokeIn name stamp elements generalizing found with
  | case1 => simp at revoked
  | case2 => simp at revoked
  | case3 device rest identified =>
      simp only [Except.ok.injEq, Option.some.injEq] at revoked
      exact ⟨[], device, rest, rfl, revoked.symm, identified, rfl⟩
  | case4 device rest identifier identified different inductionHypothesis =>
      cases searched : revokeIn name stamp rest with
      | error exc => simp [searched, Except.map] at revoked
      | ok result =>
          cases result with
          | none => simp [searched, Except.map] at revoked
          | some others =>
              simp only [searched, Except.map, Option.map_some, Except.ok.injEq,
                Option.some.injEq] at revoked
              obtain ⟨earlier, own, later, rfl, rfl, isOwn, before⟩ := inductionHypothesis searched
              refine ⟨.obj device :: earlier, own, later, rfl, revoked.symm, isOwn, ?_⟩
              simp only [anyId, identified, if_neg different]
              exact before
  | case5 => simp at revoked

theorem settled_disabled {device : Dict} (stamp : Text) (clean : Clean (.obj device)) :
    Settled (.obj (disabled stamp device)) := by
  have plain : PlainKeys (disabled stamp device) :=
    (clean.members.1.assign (PyStr.joinPairs_py _) _).assign (PyStr.joinPairs_py _) _
  apply settled_obj plain
  · exact nodup_assign _ _ (nodup_assign _ _ (built_obj clean.built).1)
  · intro member membership
    rcases mem_assign membership with rfl | inner
    · exact settled_text _
    · rcases mem_assign inner with rfl | old
      · exact settled_bool _
      · exact (clean.members.2 member old).settled

/-- What a command does to the list of devices. -/
inductive Changes (platform : Platform Key) : Command → List Json → List Json → Prop where
  | adds (name phonePubkey : PyStr) (key : Key) (issued : Issued) (elements : List Json)
      (valid : idMatches name = true) (absent : anyId name elements = .ok false)
      (loaded : loadPublicKey platform.crypto phonePubkey = .ok key) :
      Changes platform (.addDevice name phonePubkey (.ok issued)) elements
        (elements ++ [.obj (record platform name key issued)])
  | revokes (name : PyStr) (stamp : Text) (elements found : List Json)
      (revoked : revokeIn name stamp elements = .ok (some found)) :
      Changes platform (.revokeDevice name stamp) elements found
  | keeps (ip : Option PyStr) (loadKey : Option PyExc)
      (issueServer : Json → Json → Option PyExc) (elements : List Json) :
      Changes platform (.renewServer ip loadKey issueServer) elements elements

theorem Command.compute_eq_ok {command : Command} {accesses : Accesses} {file : Option Bytes}
    {after : Dict} :
    command.compute platform accesses file = .ok after ↔
      command.check = .ok () ∧ ∃ data, loadConfig accesses file = .ok data ∧
        command.plan platform data = .ok after := by
  unfold Command.compute
  simp only [bind_eq_ok]
  constructor
  · rintro ⟨_, checked, computed⟩
    exact ⟨checked, computed⟩
  · rintro ⟨checked, computed⟩
    exact ⟨(), checked, computed⟩

/-- What a plan does to a list of devices, which is saved as it is. -/
theorem listed_plan {command : Command} {data after : Dict} {elements : List Json}
    (clean : CleanData data) (isList : Devices data elements) (checked : command.check = .ok ())
    (planned : command.plan platform data = .ok after) :
    ∃ changed, Listed (some (encode (savedText after))) changed ∧
      Changes platform command elements changed := by
  have settled := clean_devices clean isList
  cases command with
  | addDevice name phonePubkey issue =>
      obtain ⟨own, key, issued, isOwn, absent, loaded, rfl, rfl⟩ := addDevice_eq_ok.mp planned
      obtain rfl := Json.arr.inj (Option.some.inj (isList.symm.trans isOwn))
      have valid : idMatches name = true := by
        by_contra invalid
        simp [Command.check, invalid, throw, throwThe, MonadExceptOf.throw] at checked
      refine ⟨_, ?_, .adds name phonePubkey key issued elements valid absent loaded⟩
      apply listed_saved (clean.1.assign (PyStr.joinPairs_py _) _)
      · exact lookup_assign_self ..
      · rw [List.forall_mem_append, List.forall_mem_singleton]
        exact ⟨settled, settled_record key issued (joinPairs_of_idMatches valid)⟩
  | revokeDevice name stamp =>
      obtain ⟨own, found, isOwn, revoked, rfl⟩ := revokeDevice_eq_ok.mp planned
      obtain rfl := Json.arr.inj (Option.some.inj (isList.symm.trans isOwn))
      refine ⟨found, ?_, .revokes name stamp elements found revoked⟩
      apply listed_saved (clean.1.assign (PyStr.joinPairs_py _) _)
      · exact lookup_assign_self ..
      · obtain ⟨earlier, device, later, rfl, rfl, _⟩ := revokeIn_cases revoked
        have isClean : Clean (.obj device) :=
          (clean.2 _ (mem_of_lookup isList)).elements _ (by simp)
        simp only [List.forall_mem_append, List.forall_mem_cons] at settled ⊢
        exact ⟨settled.1, settled_disabled stamp isClean, settled.2.2⟩
  | renewServer ip loadKey issueServer =>
      obtain ⟨newIp, rfl⟩ := renewServer_eq_ok planned
      refine ⟨elements, ?_, .keeps ip loadKey issueServer elements⟩
      apply listed_saved (clean.1.assign (PyStr.joinPairs_py _) _) _ settled
      rw [Devices, lookup_assign_of_ne (by decide)]
      exact isList

/-- A command that saves has loaded the file and checked its arguments. -/
theorem update_eq_some {command : Command} {accesses : Accesses} {file after : Option Bytes}
    (updates : command.update platform accesses file = some after) :
    ∃ content data saved, file = some content ∧ parseConfig content = .ok data ∧
      command.check = .ok () ∧ command.plan platform data = .ok saved ∧
      after = some (encode (savedText saved)) := by
  unfold Command.update at updates
  split at updates
  next saved computed _ =>
    obtain ⟨checked, data, loaded, planned⟩ := Command.compute_eq_ok.mp computed
    obtain ⟨_, _, content, rfl, parsed⟩ := loadConfig_eq_ok.mp loaded
    exact ⟨content, data, saved, rfl, parsed, checked, planned, (Option.some.inj updates).symm⟩
  · contradiction

/-- What a command does to the devices of the file. -/
theorem update_changes {command : Command} {accesses : Accesses} {file after : Option Bytes}
    {elements : List Json} (updates : command.update platform accesses file = some after)
    (listed : Listed file elements) :
    ∃ changed, Listed after changed ∧ Changes platform command elements changed := by
  obtain ⟨content, data, saved, rfl, parsed, checked, planned, rfl⟩ := update_eq_some updates
  obtain ⟨_, other, isSame, parsedAgain, isList⟩ := listed
  cases isSame
  obtain rfl := Except.ok.inj (parsed.symm.trans parsedAgain)
  exact listed_plan (cleanData_of_parseConfig parsed) isList checked planned

/-- A device is added to a list and revoked in one. -/
theorem listed_of_update {command : Command} {accesses : Accesses} {file after : Option Bytes}
    (updates : command.update platform accesses file = some after) :
    (∃ ip loadKey issueServer, command = .renewServer ip loadKey issueServer) ∨
      ∃ elements, Listed file elements := by
  obtain ⟨content, data, saved, rfl, parsed, _, planned, _⟩ := update_eq_some updates
  cases command with
  | addDevice name phonePubkey issue =>
      obtain ⟨elements, _, _, isList, _⟩ := addDevice_eq_ok.mp planned
      exact .inr ⟨elements, content, data, rfl, parsed, isList⟩
  | revokeDevice name stamp =>
      obtain ⟨elements, _, isList, _⟩ := revokeDevice_eq_ok.mp planned
      exact .inr ⟨elements, content, data, rfl, parsed, isList⟩
  | renewServer ip loadKey issueServer => exact .inl ⟨ip, loadKey, issueServer, rfl⟩

theorem plainKeys_initialData (arguments : InitArguments) (setup : Setup) :
    PlainKeys (initialData arguments setup) := by
  apply plainKeys_defaults.update
  unfold PlainKeys
  simp only [List.forall_mem_cons, PyStr.joinPairs_py, true_and]
  exact fun member absent => absurd absent List.not_mem_nil

/-- A new configuration lists no devices. -/
theorem listed_initialData (arguments : InitArguments) (setup : Setup) :
    Listed (some (encode (savedText (initialData arguments setup)))) [] := by
  apply listed_saved (plainKeys_initialData arguments setup) _ (by simp)
  rw [Devices, initialData, lookup_update]
  rfl

end RemoteUnlock.Pair
