import Mathlib.Data.NNRat.Defs
import Mathlib.Data.Rat.Floor
import RemoteUnlock.Audit.Append
import RemoteUnlock.Common.Config
import RemoteUnlock.Common.SignedMessage
import RemoteUnlock.Listener.Backoff
import RemoteUnlock.Listener.Broker

/-!
# The unlock service

The state all sessions and all PAM requests share, and what they do to it between
two awaits.  Most of it neither touches the challenges, the grant nor the
configuration and ends no lockout; `Quiet` says so.  The two operations on the
pending challenges are told apart by `issueChallenge_cases` and
`checkResponse_cases`.
-/

namespace RemoteUnlock.Listener

open Python Python.Items Common Audit

/-! ## The state -/

/-- A tuple in `self.pending`. -/
structure Pending where
  deviceId : PyStr
  issued : ℚ
  issuedMs : ℤ
  deriving DecidableEq

/-- The other end of a websocket: its address, and what asking for its certificate
gives. -/
structure Peer where
  ip : PyStr
  certificate : Except PyExc (Option Bytes)

/-- What a session has found out about its peer when it waits for the hello: the record
its certificate names, and the configuration this was looked up in. -/
structure Admission where
  certDevice : Option Dict
  data : Dict

/-- What it knows behind the hello: the device id the hello names, the device record, and
the configuration it was looked up in. -/
structure Identity extends Admission where
  deviceId : PyStr
  device : Dict
  lookupData : Dict

/-- An execution of `broker.issue()`, with the response it answers, the pending challenge
this response used up, the configuration it was checked with, the challenges then still
pending, and what was left of the lockouts of its peer and its device. -/
structure Grant where
  peer : Peer
  identity : Identity
  nonce : PyStr
  signature : Option Json
  entry : Pending
  time : ℚ
  data : Dict
  pending : PyDict PyStr Pending
  ipLeft : ℚ
  deviceLeft : ℚ

/-- A request that has taken a grant: the process that made it, the request, the
configurations in which its user id and its user were checked, and the time. -/
structure Taking where
  uid : ℤ
  request : Dict
  uidData : Dict
  userData : Dict
  time : ℚ

/-- What the service has done, as far as the results about its runs speak of it. -/
inductive Event where
  /-- `issue_challenge` made a nonce pending. -/
  | challenge (nonce : PyStr) (entry : Pending)
  /-- The signing key signed a message. -/
  | signed (message : Bytes)
  /-- A session issued a grant. -/
  | grant (session : ℕ) (grant : Grant)
  /-- A session recorded `unlock_authorized`. -/
  | authorized (session : ℕ)
  /-- A PAM request took the grant. -/
  | taken (request : ℕ) (taking : Taking)
  /-- A PAM request was answered with `1`; this is what it had taken. -/
  | granted (request : ℕ) (taking : Taking)
  /-- A PAM request was answered with `0`. -/
  | denied (request : ℕ)
  /-- The helper behind a PAM request closed its connection. -/
  | hungUp (request : ℕ)

inductive LockKind where
  | ip
  | device
  deriving DecidableEq

def LockKind.name : LockKind → PyStr
  | .ip => py "ip"
  | .device => py "device"

/-- What happens to the nonces in `self.pending`: a challenge is inserted, a nonce is looked
up and popped. -/
inductive StoreEvent where
  | opened (nonce : PyStr) (entry : Pending)
  | presented (nonce : PyStr)

/-- A call of `fail` or `success` of a counter. -/
inductive Account where
  | failed (kind : LockKind) (key : PyStr)
  | cleared (kind : LockKind) (key : PyStr)
  deriving DecidableEq

/-- A notification: the title, the text, the priority, the tags, and the entry of the
audit log it names by its number and the start of its hash. -/
structure Alert where
  title : PyStr
  text : PyStr
  priority : PyStr
  tags : List PyStr
  seq : ℕ
  anchor : Text

/-- The fields of an `UnlockService`, the time, and what it has done: in all, to its
challenges, and to its counters. -/
structure UnlockService where
  config : ConfigState
  pending : PyDict PyStr Pending
  ipBackoff : Backoff
  devBackoff : Backoff
  broker : GrantBroker
  active : ℤ
  lastLockAudit : PyDict (LockKind × PyStr) ℚ
  audit : LogState
  alerts : List Alert
  now : ℚ≥0
  history : List Event
  store : List StoreEvent
  accounts : List Account

namespace UnlockService

/-- `time.monotonic()` -/
def time (service : UnlockService) : ℚ := service.now

theorem time_nonneg (service : UnlockService) : 0 ≤ service.time := service.now.2

/-- A number of the configuration. -/
def number (data : Dict) (key : String) : Option ℚ := (lookup (py key) data).bind Json.number

/-- `UnlockService(cfg, signing_key, audit, notifier)`, where the configuration has the numbers
it needs. -/
def new (config : ConfigState) (audit : LogState) (now : ℚ≥0) : Option UnlockService := do
  let .obj lockout ← lookup (py "lockout") config.config.data | none
  let threshold ← number lockout "threshold"
  let base ← number lockout "base_seconds"
  let maximum ← number lockout "max_seconds"
  let grantTtl ← number config.config.data "grant_ttl"
  some ⟨config, .empty, .new threshold base maximum, .new threshold base maximum, .new grantTtl,
    0, .empty, audit, [], now, [], [], []⟩

def data (service : UnlockService) : Dict := service.config.config.data

def backoff (service : UnlockService) : LockKind → Backoff
  | .ip => service.ipBackoff
  | .device => service.devBackoff

def setBackoff (service : UnlockService) (kind : LockKind) (backoff : Backoff) :
    UnlockService :=
  match kind with
  | .ip => { service with ipBackoff := backoff }
  | .device => { service with devBackoff := backoff }

/-- What is left of the lockout of a key. -/
def left (service : UnlockService) (kind : LockKind) (key : PyStr) : ℚ :=
  (service.backoff kind).remaining service.time key

end UnlockService

/-! ## The world around it -/

/-- What the code gets from its libraries: the hash function, the cryptography, `str` of
a value, and `json.loads` of bytes. -/
structure Platform (Key : Type) where
  sha : Sha256
  crypto : Crypto Key
  str : Json → PyStr
  loadsBytes : Bytes → Except PyExc Json

/-- What the surroundings answer in one step: how the file operations of each append end
and its timestamp, by the number of the entry; a random nonce, the wall clock, the
signature made with the signing key, and whether writing a reply raises. -/
structure Answers where
  disk : ℕ → Io × PyStr
  nonce : PyStr
  issuedMs : ℤ
  signature : Except PyExc Text
  writeRaises : Option PyExc

/-! ## Reading the configuration -/

/-- `mapping[key]` -/
def item (mapping : Dict) (key : String) : Except PyExc Json :=
  match lookup (py key) mapping with
  | some value => .ok value
  | none => .error .keyError

/-- `self.cfg[key]` -/
def configItem (key : String) : Py UnlockService Json := fun service =>
  (item service.data key, service)

theorem configItem_eq_iff {key : String} {result : Except PyExc Json}
    {service after : UnlockService} :
    configItem key service = (result, after) ↔
      item service.data key = result ∧ service = after := by
  rw [configItem, Prod.mk.injEq]

/-- A comparison that raises where the types do not compare. -/
def compared : Option Bool → Except PyExc Bool
  | some outcome => .ok outcome
  | none => .error .typeError

/-- The time at which a wait ends that starts now and has `timeout + extra` seconds; `none`
if it has no end. -/
def deadlineAfter (now extra : ℚ) : Json → Except PyExc (Option ℚ)
  | .float .nan => .ok none
  | .float (.infinity negative) => .ok (if negative then some now else none)
  | timeout =>
      match timeout.number with
      | some seconds => .ok (some (now + (seconds + extra)))
      | none => .error .typeError

/-! ## Audit log and alerts -/

section Recording

variable {Key : Type} (platform : Platform Key) (answers : Answers)

/-- `self.audit.append(event, **data)` -/
def auditAppend (event : String) (data : Dict) : Py UnlockService (ℕ × Text) := do
  let seq ← Py.read fun service => service.audit.log.seq
  Py.zoom UnlockService.audit (fun audit service => { service with audit := audit })
    (append platform.sha (answers.disk seq).1 (answers.disk seq).2 (py event) data)

/-- The text of an alert about data. -/
def alertText (data : Dict) : PyStr :=
  List.intercalate (py ", ")
    (data.map fun field => field.1 ++ py "=" ++ platform.str field.2)

/-- `alert(title, text, priority, tags, seq, head)` -/
def alert (title : String) (text : PyStr) (priority : String) (tags : List String) (seq : ℕ)
    (head : Text) : Py UnlockService Unit :=
  Py.modify fun service =>
    { service with
      alerts := service.alerts ++
        [⟨py title, text, py priority, tags.map py, seq, head.take 16⟩] }

/-- `record(event, title, priority, tags, **data)` -/
def record (event : String) (title : Option String) (priority : String) (tags : List String)
    (data : Dict) : Py UnlockService (ℕ × Text) := do
  let (seq, head) ← auditAppend platform answers event data
  match title with
  | some title => alert title (alertText platform data) priority tags seq head
  | none => pure ()
  pure (seq, head)

end Recording

/-! ## Lockouts -/

section Lockouts

variable {Key : Type} (platform : Platform Key) (answers : Answers)

/-- `_locked(key, kind)` -/
def locked (key : PyStr) (kind : LockKind) : Py UnlockService Bool := do
  let left ← Py.read fun service => service.left kind key
  if 0 < left then do
    let now ← Py.read UnlockService.time
    let last ← Py.read fun service => (service.lastLockAudit.get (kind, key)).getD 0
    if 10 < now - last then do
      Py.modify fun service =>
        { service with lastLockAudit := service.lastLockAudit.set (kind, key) now }
      let _ ← auditAppend platform answers "attempt_during_lockout"
        [(py "kind", .str kind.name), (py "key", .str key), (py "seconds_left", .int ⌊left⌋)]
      pure true
    else pure true
  else pure false

/-- `self.ip_backoff.fail(key)` or `self.dev_backoff.fail(key)` -/
def countFailure (kind : LockKind) (key : PyStr) : Py UnlockService Bool := fun service =>
  (.ok ((service.backoff kind).fail service.time key).1,
    { service.setBackoff kind ((service.backoff kind).fail service.time key).2 with
      accounts := service.accounts ++ [.failed kind key] })

/-- `bool(device_id) and self.dev_backoff.fail(device_id)` -/
def countDeviceFailure (deviceId : Option PyStr) : Py UnlockService Bool :=
  match deviceId with
  | none => pure false
  | some [] => pure false
  | some (first :: rest) => countFailure .device (first :: rest)

/-- `_fail(ws, ip, device_id, reason)` up to where it waits for the result to be sent: the
lockouts it has started. -/
def failStart (ip : PyStr) (deviceId : Option PyStr) (reason : Text) :
    Py UnlockService (List (LockKind × PyStr)) := do
  let lockIp ← countFailure .ip ip
  let lockDev ← countDeviceFailure deviceId
  let _ ← record platform answers "unlock_rejected" (some "Unlock REJECTED") "urgent" ["warning"]
    [(py "ip", .str ip), (py "device", (deviceId.map Json.str).getD .null),
      (py "reason", .str (ofText reason))]
  pure ((if lockIp then [(.ip, ip)] else []) ++
    if lockDev then [(.device, deviceId.getD [])] else [])

/-- `_fail` from there on. -/
def failRest : List (LockKind × PyStr) → Py UnlockService Unit
  | [] => pure ()
  | (kind, key) :: hits => do
      let left ← Py.read fun service => service.left kind key
      let _ ← record platform answers "lockout" (some "LOCKOUT triggered") "urgent"
        ["rotating_light"]
        [(py "kind", .str kind.name), (py "key", .str key), (py "seconds", .int ⌊left⌋)]
      failRest hits

end Lockouts

/-! ## Challenge and response -/

section Challenges

variable {Key : Type} (platform : Platform Key) (answers : Answers)

/-- `MAX_PENDING` -/
def maxPending : ℕ := 64

/-- `signed_message` for a target id as the configuration has it. -/
def signedMessageFor (role nonce : PyStr) (issuedMs : ℤ) (deviceId : PyStr) :
    Json → Except PyExc Bytes
  | .str targetId => signedMessage role nonce issuedMs deviceId targetId
  | _ =>
      if nonceMatches nonce = false ∨ idMatches deviceId = false then .error .valueError
      else .error .typeError

/-- `self.pending` without the challenges that are too old. -/
def prunePending (now : ℚ) (ttl : Json) (pending : PyDict PyStr Pending) :
    Except PyExc (PyDict PyStr Pending) :=
  if pending.items.all fun item => (Json.atMost (now - item.2.issued) ttl).isSome then
    .ok (pending.filter fun entry => Json.atMost (now - entry.issued) ttl = some true)
  else .error .typeError

/-- `self.pending[nonce] = (device_id, now, issued_ms)` -/
def insertPending (nonce : PyStr) (entry : Pending) : Py UnlockService Unit :=
  Py.modify fun service =>
    { service with
      pending := service.pending.set nonce entry
      history := service.history ++ [.challenge nonce entry]
      store := service.store ++ [.opened nonce entry] }

/-- `self.pending.pop(nonce, None)` as far as the table goes. -/
def popped (nonce : PyStr) (service : UnlockService) : UnlockService :=
  { service with
    pending := service.pending.pop nonce
    store := service.store ++ [.presented nonce] }

/-- `sign(self.signing_key, msg)` -/
def sign (message : Bytes) : Py UnlockService Text := do
  let signature ← Py.ofExcept answers.signature
  Py.modify fun service => { service with history := service.history ++ [.signed message] }
  pure signature

/-- `issue_challenge` from where it has a nonce. -/
def openChallenge (deviceId nonce : PyStr) (now : ℚ) (issuedMs : ℤ) : Py UnlockService Json := do
  insertPending nonce ⟨deviceId, now, issuedMs⟩
  let target ← configItem "target_id"
  let message ← Py.ofExcept (signedMessageFor (py "challenge") nonce issuedMs deviceId target)
  let signature ← sign answers message
  pure (.obj [(py "type", .str (py "challenge")), (py "nonce", .str nonce),
    (py "issued_ms", .int issuedMs), (py "target_id", target),
    (py "server_sig", .str (ofText signature))])

/-- `issue_challenge(device_id)` -/
def issueChallenge (deviceId : PyStr) : Py UnlockService Json := do
  let now ← Py.read UnlockService.time
  let ttl ← configItem "challenge_ttl"
  let pending ← Py.read UnlockService.pending
  let kept ← Py.ofExcept (prunePending now ttl pending)
  Py.modify fun service => { service with pending := kept }
  if maxPending ≤ kept.items.length then Py.raise .runtimeError
  else openChallenge answers deviceId answers.nonce now answers.issuedMs

/-- What `check_response` found: a reason to refuse, or the challenge it used up. -/
inductive CheckResult where
  | refused (reason : String)
  | accepted (nonce : PyStr) (entry : Pending)

/-- `load_public_key(value)` -/
def loadKey : Json → Except PyExc Key
  | .str text => loadPublicKey platform.crypto text
  | _ => .error .attributeError

/-- `check_response` once the nonce is popped. -/
def checkEntry (device : Dict) (nonce : PyStr) (signature : Option Json) (entry : Pending) :
    Py UnlockService CheckResult := do
  let identifier ← Py.ofExcept (item device "id")
  if identifier ≠ .str entry.deviceId then pure (.refused "nonce_issued_to_other_device")
  else do
    let now ← Py.read UnlockService.time
    let ttl ← configItem "challenge_ttl"
    let expired ← Py.ofExcept (compared (Json.exceeds (now - entry.issued) ttl))
    if expired then pure (.refused "challenge_expired")
    else do
      let target ← configItem "target_id"
      let message ← Py.ofExcept
        (signedMessageFor (py "response") nonce entry.issuedMs entry.deviceId target)
      let pem ← Py.ofExcept (item device "public_key_pem")
      let key ← Py.ofExcept (loadKey platform pem)
      if verifySig platform.crypto key message signature then pure (.accepted nonce entry)
      else pure (.refused "bad_signature")

/-- `check_response(device, nonce, signature)` -/
def checkResponse (device : Dict) (nonce signature : Option Json) :
    Py UnlockService CheckResult :=
  match nonce with
  | some (.str nonce) =>
      if nonceMatches nonce = false then pure (.refused "malformed_nonce")
      else do
        let found ← Py.read fun service => service.pending.get nonce
        Py.modify (popped nonce)
        match found with
        | none => pure (.refused "unknown_or_replayed_nonce")
        | some entry => checkEntry platform device nonce signature entry
  | _ => pure (.refused "malformed_nonce")

end Challenges

end RemoteUnlock.Listener
