import RemoteUnlock.Pair.Wildcard

/-!
# Keys and certificates on disk

`init` and `renew_server` replace several files one after another, each of them as a whole
(`writePrivate_failed`).  When one of the writes fails, the files that are there do not belong
together, except where the first one fails or where what is missing would have changed
nothing (`consistent_left_iff`).
-/

namespace RemoteUnlock.Pair

open Python Python.Items Common

/-! ## One file -/

/-- A file, and the temporary one next to it with what has been written to it. -/
structure Replacing (Content : Type) where
  file : Content
  temporary : Option (Option Content)

/-- The calls of `write_private` that may raise. -/
inductive Stage where
  | mkdir
  | mkstemp
  | fchmod
  | write
  | fsync
  | replace
  deriving DecidableEq

def stages : List Stage := [.mkdir, .mkstemp, .fchmod, .write, .fsync, .replace]

section WritePrivate

variable {Content : Type} (content : Content)

def Stage.perform (state : Replacing Content) : Stage → Replacing Content
  | .mkstemp => { state with temporary := some none }
  | .write => { state with temporary := some (some content) }
  | .replace =>
      match state.temporary with
      | some (some written) => ⟨written, none⟩
      | _ => state
  | _ => state

/-- `write_private`, up to the call that raises; the temporary file is unlinked then. -/
def writePrivate (fails : Option Stage) (file : Content) : Replacing Content :=
  match fails with
  | none => stages.foldl (Stage.perform content) ⟨file, none⟩
  | some stage =>
      { (stages.takeWhile (· ≠ stage)).foldl (Stage.perform content) ⟨file, none⟩ with
        temporary := none }

theorem writePrivate_failed (stage : Stage) (file : Content) :
    writePrivate content (some stage) file = ⟨file, none⟩ := by
  cases stage <;> rfl

end WritePrivate

/-! ## The directory -/

/-- A pair of keys, and the passphrase that its file is encrypted with. -/
structure KeyFile (Key : Type) where
  key : Key
  passphrase : PyStr

/-- What a chain is built from, and the address; the key is the public one of a pair. -/
structure Certificate (Key : Type) where
  subject : PyStr
  issuer : PyStr
  key : Key
  signer : Key
  isCa : Bool
  sanIp : Option Address
  sanDns : Option PyStr

/-- What the commands use of the libraries for keys and certificates. -/
structure X509 (Key : Type) where
  publicPem : Key → Text
  /-- `name.rfc4514_string()[3:]` for a common name. -/
  issuerName : PyStr → PyStr
  /-- What a common name or a DNS name raises. -/
  nameRaises : PyStr → Option PyExc

/-- The files of a setup; `config.json` as it is loaded. -/
structure SetupFiles (Key : Type) where
  caKey : KeyFile Key
  caCert : Certificate Key
  serverKey : KeyFile Key
  serverCert : Certificate Key
  signingKey : KeyFile Key
  config : Dict

/-- A call of `write_private`. -/
inductive Write (Key : Type) where
  | caKey (content : KeyFile Key)
  | caCert (content : Certificate Key)
  | serverKey (content : KeyFile Key)
  | serverCert (content : Certificate Key)
  | signingKey (content : KeyFile Key)
  | config (content : Dict)

namespace SetupFiles

variable {Key : Type}

def perform (directory : SetupFiles Key) (fails : Option Stage) : Write Key → SetupFiles Key
  | .caKey content =>
      { directory with caKey := (writePrivate content fails directory.caKey).file }
  | .caCert content =>
      { directory with caCert := (writePrivate content fails directory.caCert).file }
  | .serverKey content =>
      { directory with serverKey := (writePrivate content fails directory.serverKey).file }
  | .serverCert content =>
      { directory with serverCert := (writePrivate content fails directory.serverCert).file }
  | .signingKey content =>
      { directory with signingKey := (writePrivate content fails directory.signingKey).file }
  | .config content =>
      { directory with config := (writePrivate content fails directory.config).file }

/-- All of the writes. -/
def performAll (directory : SetupFiles Key) (writes : List (Write Key)) : SetupFiles Key :=
  writes.foldl (fun directory write => directory.perform none write) directory

/-- What is left behind when one of the writes fails. -/
def left (directory : SetupFiles Key) (writes : List (Write Key)) (failing : ℕ) (stage : Stage) :
    SetupFiles Key :=
  match writes[failing]? with
  | none => directory.performAll (writes.take failing)
  | some write => (directory.performAll (writes.take failing)).perform (some stage) write

theorem perform_failed (directory : SetupFiles Key) (stage : Stage) (write : Write Key) :
    directory.perform (some stage) write = directory := by
  cases write <;> rw [perform, writePrivate_failed]

theorem left_eq_performAll (directory : SetupFiles Key) (writes : List (Write Key)) (failing : ℕ)
    (stage : Stage) : directory.left writes failing stage =
      directory.performAll (writes.take failing) := by
  rw [left]
  split
  · rfl
  · rw [perform_failed]

end SetupFiles

/-! ## The commands -/

variable {Key : Type} (x509 : X509 Key)

/-- An address as it is named in a certificate. -/
def withoutScope : Address → Address
  | .v4 value => .v4 value
  | .v6 value _ => .v6 value none

/-- The certificate that `_issue_server` makes. -/
def serverCertificate (key caKey : Key) (caCert : Certificate Key) (targetId : PyStr)
    (san : Option Address) : Certificate Key where
  subject := targetId
  issuer := x509.issuerName caCert.subject
  key := key
  signer := caKey
  isCa := false
  sanIp := san.map withoutScope
  sanDns := if targetId = [] then none else some targetId

/-- `_issue_server`, with the key that it generates. -/
def issueServer (key caKey : Key) (caCert : Certificate Key) (targetId : PyStr) (ip : Json)
    (passphrase : PyStr) : Except Failure (List (Write Key)) := do
  attempt (x509.nameRaises targetId)
  let san ← raising (sanAddress ip)
  pure
    [.serverKey ⟨key, passphrase⟩,
      .serverCert (serverCertificate x509 key caKey caCert targetId san)]

/-- The keys that `init` generates. -/
structure Generated (Key : Type) where
  ca : Key
  server : Key
  signing : Key

/-- The certificate that `init` makes for its new authority. -/
def rootCertificate (key : Key) : Certificate Key where
  subject := py "remote-unlock-ca"
  issuer := py "remote-unlock-ca"
  key := key
  signer := key
  isCa := true
  sanIp := none
  sanDns := none

/-- What `init` writes. -/
def initWrites (arguments : InitArguments) (generated : Generated Key) (topic : Text) :
    Except Failure (List (Write Key)) := do
  let issued ← issueServer x509 generated.server generated.ca (rootCertificate generated.ca)
    arguments.targetId (.str arguments.ip) arguments.passphrase
  pure
    ([.caKey ⟨generated.ca, arguments.passphrase⟩, .caCert (rootCertificate generated.ca)] ++
      issued ++
      [.signingKey ⟨generated.signing, arguments.passphrase⟩,
        .config (initialData arguments ⟨x509.publicPem generated.signing, topic⟩)])

/-- `_load_key` -/
def loadKey (file : KeyFile Key) (passphrase : PyStr) : Except Failure Key :=
  if file.passphrase = passphrase then .ok file.key else .error (.raised .valueError)

/-- What `renew_server` writes, with the key that it generates. -/
def renewWrites (directory : SetupFiles Key) (ip : Option PyStr) (passphrase : PyStr) (key : Key) :
    Except Failure (List (Write Key)) := do
  let caKey ← loadKey directory.caKey passphrase
  let ip ← address ip directory.config
  match ← item (py "target_id") directory.config with
  | .str targetId =>
      let issued ← issueServer x509 key caKey directory.caCert targetId ip passphrase
      pure (issued ++ [.config (assign (py "listener_ip") ip directory.config)])
  | _ => throw (.raised .typeError)

/-! ## What belongs together -/

/-- A certificate that an authority has issued. -/
def Chains (certificate authority : Certificate Key) : Prop :=
  certificate.signer = authority.key ∧ certificate.issuer = authority.subject ∧
    authority.isCa = true

/-- The address that `listener_ip` denotes. -/
def ListensAt (data : Dict) (address : Address) : Prop :=
  ∃ ip parsed, lookup (py "listener_ip") data = some (.str ip) ∧
    ipAddress ip = some parsed ∧ withoutScope parsed = address

/-- The files belong together; `certificateOf` tells what a fingerprint stands for. -/
structure SetupFiles.Consistent (certificateOf : PyStr → Option (Certificate Key))
    (directory : SetupFiles Key) : Prop where
  certifies : directory.serverCert.key = directory.serverKey.key
  chains : Chains directory.serverCert directory.caCert
  authority : directory.caCert.key = directory.caKey.key
  address : ∃ address, directory.serverCert.sanIp = some address ∧
    ListensAt directory.config address
  signing : lookup (py "laptop_public_key_pem") directory.config =
    some (.str (ofText (x509.publicPem directory.signingKey.key)))
  devices : ∀ device, EnabledIn directory.config device → ∃ fingerprint certificate,
    lookup (py "cert_sha256") device = some (.str fingerprint) ∧
      certificateOf fingerprint = some certificate ∧ Chains certificate directory.caCert

/-- A new address is the one that is listened at. -/
def SameAddress (data : Dict) (ip : Json) : Prop :=
  ∃ address, sanAddress ip = .ok (some address) ∧ ListensAt data (withoutScope address)

/-- The generated keys are others than those on disk. -/
structure Generated.Fresh (generated : Generated Key) (directory : SetupFiles Key) : Prop where
  ca : generated.ca ≠ directory.caKey.key
  signing : generated.signing ≠ directory.signingKey.key

theorem issueServer_eq_ok {key caKey : Key} {caCert : Certificate Key} {targetId : PyStr}
    {ip : Json} {passphrase : PyStr} {writes : List (Write Key)}
    (issued : issueServer x509 key caKey caCert targetId ip passphrase = .ok writes) :
    ∃ san, sanAddress ip = .ok san ∧ writes = [.serverKey ⟨key, passphrase⟩,
      .serverCert (serverCertificate x509 key caKey caCert targetId san)] := by
  unfold issueServer at issued
  obtain ⟨_, _, issued⟩ := bind_eq_ok.mp issued
  obtain ⟨san, named, issued⟩ := bind_eq_ok.mp issued
  exact ⟨san, raising_eq_ok.mp named, (Except.ok.inj issued).symm⟩

theorem initWrites_eq_ok {arguments : InitArguments} {generated : Generated Key} {topic : Text}
    {writes : List (Write Key)} (wrote : initWrites x509 arguments generated topic = .ok writes) :
    ∃ san, sanAddress (.str arguments.ip) = .ok san ∧ writes =
      [.caKey ⟨generated.ca, arguments.passphrase⟩, .caCert (rootCertificate generated.ca),
        .serverKey ⟨generated.server, arguments.passphrase⟩,
        .serverCert (serverCertificate x509 generated.server generated.ca
          (rootCertificate generated.ca) arguments.targetId san),
        .signingKey ⟨generated.signing, arguments.passphrase⟩,
        .config (initialData arguments ⟨x509.publicPem generated.signing, topic⟩)] := by
  unfold initWrites at wrote
  obtain ⟨issued, made, wrote⟩ := bind_eq_ok.mp wrote
  obtain ⟨san, named, rfl⟩ := issueServer_eq_ok x509 made
  exact ⟨san, named, (Except.ok.inj wrote).symm⟩

theorem renewWrites_eq_ok {directory : SetupFiles Key} {ip : Option PyStr} {passphrase : PyStr}
    {key : Key} {writes : List (Write Key)}
    (wrote : renewWrites x509 directory ip passphrase key = .ok writes) :
    ∃ newIp targetId san, address ip directory.config = .ok newIp ∧
      sanAddress newIp = .ok san ∧ writes =
        [.serverKey ⟨key, passphrase⟩,
          .serverCert
            (serverCertificate x509 key directory.caKey.key directory.caCert targetId san),
          .config (assign (py "listener_ip") newIp directory.config)] := by
  unfold renewWrites at wrote
  obtain ⟨caKey, loaded, wrote⟩ := bind_eq_ok.mp wrote
  obtain ⟨newIp, chosen, wrote⟩ := bind_eq_ok.mp wrote
  obtain ⟨target, named, wrote⟩ := bind_eq_ok.mp wrote
  unfold loadKey at loaded
  split at loaded
  · obtain rfl := Except.ok.inj loaded
    split at wrote
    next targetId =>
      obtain ⟨issued, made, wrote⟩ := bind_eq_ok.mp wrote
      obtain ⟨san, sanNamed, rfl⟩ := issueServer_eq_ok x509 made
      exact ⟨newIp, targetId, san, chosen, sanNamed, (Except.ok.inj wrote).symm⟩
    · contradiction
  · contradiction

/-- The certificate is for the address that is listened at exactly if the new one is that. -/
theorem sameAddress_iff {data : Dict} {ip : Json} {san : Option Address}
    (named : sanAddress ip = .ok san) :
    (∃ address, san.map withoutScope = some address ∧ ListensAt data address) ↔
      SameAddress data ip := by
  constructor
  · rintro ⟨address, isAddress, listens⟩
    obtain ⟨parsed, rfl, rfl⟩ := Option.map_eq_some_iff.mp isAddress
    exact ⟨parsed, named, listens⟩
  · rintro ⟨parsed, isParsed, listens⟩
    obtain rfl := Except.ok.inj (named.symm.trans isParsed)
    exact ⟨withoutScope parsed, rfl, listens⟩

theorem not_enabledIn_initialData (arguments : InitArguments) (setup : Setup) (device : Dict) :
    ¬ EnabledIn (initialData arguments setup) device := by
  rintro ⟨_, elements, listed, membership⟩
  have empty : devices (initialData arguments setup) = .ok [] := by
    rw [Common.devices, initialData, lookup_update]
    rfl
  obtain rfl := Except.ok.inj (listed.symm.trans empty)
  contradiction

section Failing

variable {x509} {certificateOf : PyStr → Option (Certificate Key)} {directory : SetupFiles Key}

/-- The certificate of the old server does not chain to a new authority. -/
theorem SetupFiles.Consistent.signer (consistent : directory.Consistent x509 certificateOf) :
    directory.serverCert.signer = directory.caKey.key :=
  consistent.chains.1.trans consistent.authority

/-- What is left of `init` when one of its writes fails. -/
theorem init_left_iff (injective : Function.Injective x509.publicPem)
    (plain : x509.issuerName (py "remote-unlock-ca") = py "remote-unlock-ca")
    (consistent : directory.Consistent x509 certificateOf) {arguments : InitArguments}
    {generated : Generated Key} (fresh : generated.Fresh directory) {topic : Text}
    {writes : List (Write Key)} (wrote : initWrites x509 arguments generated topic = .ok writes)
    {failing : ℕ} (fails : failing < writes.length) (stage : Stage) :
    (directory.left writes failing stage).Consistent x509 certificateOf ↔
      failing = 0 ∨ failing = 4 ∧ SameAddress directory.config (.str arguments.ip) ∧
        ∀ device, ¬ EnabledIn directory.config device := by
  obtain ⟨san, named, rfl⟩ := initWrites_eq_ok x509 wrote
  have six : failing < 6 := fails
  rw [SetupFiles.left_eq_performAll]
  obtain rfl | rfl | rfl | rfl | rfl | rfl : failing = 0 ∨ failing = 1 ∨ failing = 2 ∨
      failing = 3 ∨ failing = 4 ∨ failing = 5 := by omega
  · exact iff_of_true consistent (.inl rfl)
  · refine iff_of_false (fun left => ?_) (by simp)
    exact fresh.ca (left.authority.symm.trans consistent.authority)
  · refine iff_of_false (fun left => ?_) (by simp)
    exact fresh.ca (left.chains.1.symm.trans consistent.signer)
  · refine iff_of_false (fun left => ?_) (by simp)
    exact fresh.ca (left.chains.1.symm.trans consistent.signer)
  · constructor
    · intro left
      refine .inr ⟨rfl, (sameAddress_iff named).mp left.address, fun device enabled => ?_⟩
      obtain ⟨fingerprint, certificate, pinned, isCertificate, chains⟩ :=
        left.devices device enabled
      obtain ⟨_, other, pinnedOld, isOther, chainsOld⟩ := consistent.devices device enabled
      obtain rfl := Json.str.inj (Option.some.inj (pinned.symm.trans pinnedOld))
      obtain rfl := Option.some.inj (isCertificate.symm.trans isOther)
      exact fresh.ca (chains.1.symm.trans (chainsOld.1.trans consistent.authority))
    · rintro (impossible | ⟨_, same, none⟩)
      · contradiction
      · exact
          { certifies := rfl
            chains := ⟨rfl, plain, rfl⟩
            authority := rfl
            address := (sameAddress_iff named).mpr same
            signing := consistent.signing
            devices := fun device enabled => absurd enabled (none device) }
  · refine iff_of_false (fun left => ?_) (by simp)
    have same := Json.str.inj (Option.some.inj (left.signing.symm.trans consistent.signing))
    exact fresh.signing (injective (ofText_injective same))

/-- What is left of `renew_server` when one of its writes fails. -/
theorem renew_left_iff (consistent : directory.Consistent x509 certificateOf) {ip : Option PyStr}
    {passphrase : PyStr} {key : Key} (fresh : key ≠ directory.serverKey.key)
    {writes : List (Write Key)}
    (wrote : renewWrites x509 directory ip passphrase key = .ok writes) {failing : ℕ}
    (fails : failing < writes.length) (stage : Stage) :
    (directory.left writes failing stage).Consistent x509 certificateOf ↔
      failing = 0 ∨ failing = 2 ∧
        x509.issuerName directory.caCert.subject = directory.caCert.subject ∧
          ∃ newIp, address ip directory.config = .ok newIp ∧
            SameAddress directory.config newIp := by
  obtain ⟨newIp, targetId, san, chosen, named, rfl⟩ := renewWrites_eq_ok x509 wrote
  have three : failing < 3 := fails
  rw [SetupFiles.left_eq_performAll]
  obtain rfl | rfl | rfl : failing = 0 ∨ failing = 1 ∨ failing = 2 := by omega
  · exact iff_of_true consistent (.inl rfl)
  · refine iff_of_false (fun left => ?_) (by simp)
    exact fresh (left.certifies.symm.trans consistent.certifies)
  · constructor
    · intro left
      exact .inr ⟨rfl, left.chains.2.1, newIp, chosen, (sameAddress_iff named).mp left.address⟩
    · rintro (impossible | ⟨_, issuer, other, isOther, same⟩)
      · contradiction
      · obtain rfl := Except.ok.inj (chosen.symm.trans isOther)
        exact
          { certifies := rfl
            chains := ⟨consistent.authority.symm, issuer, consistent.chains.2.2⟩
            authority := consistent.authority
            address := (sameAddress_iff named).mpr same
            signing := consistent.signing
            devices := consistent.devices }

/-! ## Without a failure -/

theorem init_consistent
    (plain : x509.issuerName (py "remote-unlock-ca") = py "remote-unlock-ca")
    {arguments : InitArguments} (parses : (ipAddress arguments.ip).isSome = true)
    {generated : Generated Key} {topic : Text} {writes : List (Write Key)}
    (wrote : initWrites x509 arguments generated topic = .ok writes) :
    (directory.performAll writes).Consistent x509 certificateOf := by
  obtain ⟨san, named, rfl⟩ := initWrites_eq_ok x509 wrote
  obtain ⟨parsed, isParsed⟩ := Option.isSome_iff_exists.mp parses
  have nonempty : arguments.ip ≠ [] := by
    intro empty
    rw [empty] at isParsed
    contradiction
  have isSan : sanAddress (.str arguments.ip) = .ok (some parsed) := by
    rw [sanAddress, if_neg nonempty, isParsed]
  obtain rfl := Except.ok.inj (isSan.symm.trans named)
  have listener : lookup (py "listener_ip") (initialData arguments
      ⟨x509.publicPem generated.signing, topic⟩) = some (.str arguments.ip) := by
    rw [initialData, lookup_update]
    rfl
  exact
    { certifies := rfl
      chains := ⟨rfl, plain, rfl⟩
      authority := rfl
      address := ⟨withoutScope parsed, rfl, arguments.ip, parsed, listener, isParsed, rfl⟩
      signing := by
        change lookup _ (initialData _ _) = _
        rw [initialData, lookup_update]
        rfl
      devices := fun device enabled =>
        absurd enabled (not_enabledIn_initialData arguments _ device) }

theorem sanAddress_str_eq_ok {text : PyStr} {san : Option Address}
    (named : sanAddress (.str text) = .ok san) (nonempty : text ≠ []) :
    ∃ parsed, ipAddress text = some parsed ∧ san = some parsed := by
  rw [sanAddress, if_neg nonempty] at named
  cases parsed : ipAddress text with
  | none =>
      rw [parsed] at named
      contradiction
  | some address =>
      rw [parsed] at named
      exact ⟨address, rfl, (Except.ok.inj named).symm⟩

/-- A consistent setup is renewed for an address in text. -/
theorem address_of_consistent (consistent : directory.Consistent x509 certificateOf)
    {ip : Option PyStr} {newIp : Json} (chosen : address ip directory.config = .ok newIp)
    {san : Option Address} (named : sanAddress newIp = .ok san) :
    ∃ text parsed, newIp = .str text ∧ ipAddress text = some parsed ∧ san = some parsed := by
  obtain ⟨_, _, text, parsed, listener, isParsed, _⟩ := consistent.address
  unfold address at chosen
  split at chosen
  next point rest =>
    obtain rfl := Except.ok.inj chosen
    obtain ⟨parsed, isParsed, isSan⟩ := sanAddress_str_eq_ok named (List.cons_ne_nil _ _)
    exact ⟨point :: rest, parsed, rfl, isParsed, isSan⟩
  · rw [item, listener] at chosen
    obtain rfl := Except.ok.inj chosen
    have nonempty : text ≠ [] := by
      rintro rfl
      contradiction
    obtain ⟨parsed, isParsed, isSan⟩ := sanAddress_str_eq_ok named nonempty
    exact ⟨text, parsed, rfl, isParsed, isSan⟩

theorem enabledIn_assign_iff {key : PyStr} (other : py "devices" ≠ key) (value : Json)
    (data device : Dict) : EnabledIn (assign key value data) device ↔ EnabledIn data device := by
  have same : devices (assign key value data) = devices data := by
    rw [Common.devices, Common.devices, lookup_assign_of_ne other]
  rw [EnabledIn, EnabledIn, same]

theorem renew_consistent (consistent : directory.Consistent x509 certificateOf)
    (plain : x509.issuerName directory.caCert.subject = directory.caCert.subject)
    {ip : Option PyStr} {passphrase : PyStr} {key : Key} {writes : List (Write Key)}
    (wrote : renewWrites x509 directory ip passphrase key = .ok writes) :
    (directory.performAll writes).Consistent x509 certificateOf := by
  obtain ⟨newIp, targetId, san, chosen, named, rfl⟩ := renewWrites_eq_ok x509 wrote
  obtain ⟨text, parsed, rfl, isParsed, rfl⟩ := address_of_consistent consistent chosen named
  exact
    { certifies := rfl
      chains := ⟨consistent.authority.symm, plain, consistent.chains.2.2⟩
      authority := consistent.authority
      address := ⟨withoutScope parsed, rfl, text, parsed, lookup_assign_self _ _ _, isParsed, rfl⟩
      signing := (lookup_assign_of_ne (by decide) _ _).trans consistent.signing
      devices := fun device enabled =>
        consistent.devices device ((enabledIn_assign_iff (by decide) _ _ _).mp enabled) }

/-- A failing write leaves every file as it was or as a whole new one, and files that belong
together in these cases only. -/
theorem consistent_left_iff (injective : Function.Injective x509.publicPem)
    (plain : x509.issuerName (py "remote-unlock-ca") = py "remote-unlock-ca")
    (consistent : directory.Consistent x509 certificateOf) :
    (∀ (writes : List (Write Key)) failing stage, directory.left writes failing stage =
        directory.performAll (writes.take failing)) ∧
      (∀ (arguments : InitArguments) (generated : Generated Key) (topic : Text)
          (writes : List (Write Key)), generated.Fresh directory →
        initWrites x509 arguments generated topic = .ok writes →
          ∀ failing < writes.length, ∀ stage,
            ((directory.left writes failing stage).Consistent x509 certificateOf ↔
              failing = 0 ∨ failing = 4 ∧ SameAddress directory.config (.str arguments.ip) ∧
                ∀ device, ¬ EnabledIn directory.config device)) ∧
      (∀ (ip : Option PyStr) (passphrase : PyStr) (key : Key) (writes : List (Write Key)),
        key ≠ directory.serverKey.key →
        renewWrites x509 directory ip passphrase key = .ok writes →
          ∀ failing < writes.length, ∀ stage,
            ((directory.left writes failing stage).Consistent x509 certificateOf ↔
              failing = 0 ∨ failing = 2 ∧
                x509.issuerName directory.caCert.subject = directory.caCert.subject ∧
                  ∃ newIp, address ip directory.config = .ok newIp ∧
                    SameAddress directory.config newIp)) := by
  refine ⟨directory.left_eq_performAll, ?_, ?_⟩
  · intro arguments generated topic writes fresh wrote failing fails stage
    exact init_left_iff injective plain consistent fresh wrote fails stage
  · intro ip passphrase key writes fresh wrote failing fails stage
    exact renew_left_iff consistent fresh wrote fails stage

end Failing

/-! ## A renewal that stops half way -/

def sampleX509 : X509 ℕ := ⟨natText, id, fun _ => none⟩

/-- The writes of a command. -/
def written (result : Except Failure (List (Write ℕ))) : List (Write ℕ) :=
  match result with
  | .ok writes => writes
  | .error _ => []

def firstInit : List (Write ℕ) :=
  written (initWrites sampleX509 (listeningAt "10.0.0.1") ⟨1, 2, 3⟩ [])

/-- A setup behind its `init`, and whatever was there before. -/
def setUp : SetupFiles ℕ :=
  SetupFiles.performAll ⟨⟨0, []⟩, rootCertificate 0, ⟨0, []⟩, rootCertificate 0, ⟨0, []⟩, []⟩
    firstInit

def secondInit : List (Write ℕ) :=
  written (initWrites sampleX509 (listeningAt "10.0.0.2") ⟨4, 5, 6⟩ [])

def renewal : List (Write ℕ) :=
  written (renewWrites sampleX509 setUp (some (py "10.0.0.2")) (py "correct horse") 4)

theorem consistent_setUp : setUp.Consistent sampleX509 fun _ => none := by
  have wrote : initWrites sampleX509 (listeningAt "10.0.0.1") ⟨1, 2, 3⟩ [] = .ok firstInit := rfl
  exact init_consistent rfl (by decide) wrote

theorem renewWrites_setUp :
    renewWrites sampleX509 setUp (some (py "10.0.0.2")) (py "correct horse") 4 = .ok renewal :=
  rfl

theorem consistent_left_iff_setUp :
    (setUp.left secondInit 0 .mkstemp).Consistent sampleX509 (fun _ => none) ∧
      (setUp.left renewal 0 .fsync).Consistent sampleX509 (fun _ => none) := by
  have injective : Function.Injective sampleX509.publicPem := natText_injective
  have both := consistent_left_iff injective rfl consistent_setUp
  have wrote : initWrites sampleX509 (listeningAt "10.0.0.2") ⟨4, 5, 6⟩ [] = .ok secondInit := rfl
  have fresh : Generated.Fresh ⟨4, 5, 6⟩ setUp := ⟨by decide, by decide⟩
  constructor
  · exact (both.2.1 _ _ _ _ fresh wrote 0 (by decide) _).mpr (.inl rfl)
  · exact (both.2.2 _ _ 4 _ (by decide) renewWrites_setUp 0 (by decide) _).mpr (.inl rfl)

/-- The certificate cannot be written, so the new key is there with the old certificate. -/
theorem not_consistent_serverCert :
    setUp.Consistent sampleX509 (fun _ => none) ∧
      renewWrites sampleX509 setUp (some (py "10.0.0.2")) (py "correct horse") 4 = .ok renewal ∧
      ¬ (setUp.left renewal 1 .write).Consistent sampleX509 (fun _ => none) := by
  refine ⟨consistent_setUp, renewWrites_setUp, ?_⟩
  rw [renew_left_iff consistent_setUp (by decide) renewWrites_setUp (by decide)]
  rintro (first | ⟨third, _⟩)
  · contradiction
  · contradiction

end RemoteUnlock.Pair
