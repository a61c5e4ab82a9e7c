import RemoteUnlock.Listener.Service

/-!
# Sessions

`handle` and `_session` as a machine that runs from one await to the next.  A
`Place` says which await a session has reached and what its local variables still
needed behind it hold.
-/

namespace RemoteUnlock.Listener

open Python Python.Items Common Audit

/-! ## The machine -/

/-- Where a session waits. -/
inductive Place where
  /-- For `ws.close`; `admitted` is false in front of the `try` of `handle`. -/
  | closing (admitted : Bool)
  /-- For the hello. -/
  | recvHello (admission : Admission) (deadline : Option ℚ)
  /-- For the challenge to be sent. -/
  | sendChallenge (identity : Identity) (challenge : Json)
  /-- For the response. -/
  | recvResponse (identity : Identity) (deadline : Option ℚ)
  /-- For the result to be sent in `_fail`, called by `_session` or by `handle`. -/
  | sendRejection (hits : List (LockKind × PyStr)) (handling : Bool)
  /-- For the result to be sent. -/
  | sendResult
  | done

/-- How an await ends: the operation finishes or raises, or a message is there, or the
time is over. -/
inductive Awaited where
  | finished (raises : Option PyExc)
  | text (raw : Text)
  | binary
  | raised (exc : PyExc)
  | timedOut

/-- A deadline has passed; without one a wait may end at any time. -/
def past (now : ℚ) : Option ℚ → Bool
  | some limit => limit ≤ now
  | none => true

/-- The time of a wait is over only behind its deadline. -/
def possible (now : ℚ) : Place → Awaited → Bool
  | .recvHello _ deadline, .timedOut => past now deadline
  | .recvResponse _ deadline, .timedOut => past now deadline
  | _, _ => true

section Handle

variable {Key : Type} (platform : Platform Key) (answers : Answers)

/-- `_fail` in the place where it is called. -/
def fail (peer : Peer) (deviceId : Option PyStr) (reason : Text) (handling : Bool) :
    Py UnlockService Place := do
  let hits ← failStart platform answers peer.ip deviceId reason
  pure (.sendRejection hits handling)

/-- `_recv_json` when the wait is over; `none` if this is not how a wait for a message
ends. -/
def received : Awaited → Option (Except PyExc Dict)
  | .finished _ => none
  | .text raw =>
      some (match Json.loads raw with
        | none => .error .jsonDecodeError
        | some (.obj members) => .ok members
        | some _ => .error .valueError)
  | .binary => some (.error .valueError)
  | .raised exc => some (.error exc)
  | .timedOut => some (.error .timeoutError)

/-- `MSG_TIMEOUT` -/
def msgTimeout : ℚ := 5

/-- The device record the certificate of the peer names. -/
def certDevice (data : Dict) (certificate : Option Bytes) : Except PyExc (Option Dict) :=
  match certificate with
  | some (first :: rest) =>
      deviceByFp data (ofText (platform.sha.hexdigest (first :: rest)))
  | _ => .ok none

/-- `_session` up to the hello. -/
def sessionStart (peer : Peer) : Py UnlockService Place := do
  let isLocked ← locked platform answers peer.ip .ip
  if isLocked then pure (.closing true)
  else do
    let certificate ← Py.ofExcept peer.certificate
    let data ← Py.read UnlockService.data
    let device ← Py.ofExcept (certDevice platform data certificate)
    let required ← configItem "require_mtls"
    if required.truthy ∧ device = none then
      fail platform answers peer none "no_registered_client_certificate".toList false
    else do
      let now ← Py.read UnlockService.time
      pure (.recvHello ⟨device, data⟩ (some (now + msgTimeout)))

/-- The device record a session goes on with, and the configuration it is from. -/
def lookupDevice (admission : Admission) (deviceId : PyStr) :
    Py UnlockService (Option Dict × Dict) := do
  let data ← Py.read UnlockService.data
  if admission.certDevice.getD [] ≠ [] then pure (admission.certDevice, admission.data)
  else do
    let device ← Py.ofExcept (deviceById data deviceId)
    pure (device, data)

/-- `_session` once the device is known. -/
def challengeDevice (identity : Identity) : Py UnlockService Place := do
  let isLocked ← locked platform answers identity.deviceId .device
  if isLocked then pure (.closing true)
  else do
    let challenge ← issueChallenge answers identity.deviceId
    pure (.sendChallenge identity challenge)

/-- `_session` from the hello to the challenge. -/
def afterHello (peer : Peer) (admission : Admission) (hello : Dict) :
    Py UnlockService Place :=
  match lookup (py "device_id") hello with
  | some (.str deviceId) =>
      if lookup (py "type") hello ≠ some (.str (py "hello")) then
        fail platform answers peer none "bad_hello".toList false
      else do
        let (found, lookupData) ← lookupDevice admission deviceId
        match found with
        | none => fail platform answers peer none "unknown_device_or_id_mismatch".toList false
        | some device => do
            let identifier ← Py.ofExcept (item device "id")
            if identifier ≠ .str deviceId then
              fail platform answers peer none "unknown_device_or_id_mismatch".toList false
            else
              challengeDevice platform answers ⟨admission, deviceId, device, lookupData⟩
  | _ => fail platform answers peer none "bad_hello".toList false

/-- `_session` between the challenge and the response. -/
def afterChallenge (identity : Identity) : Py UnlockService Place := do
  let ttl ← configItem "challenge_ttl"
  let now ← Py.read UnlockService.time
  let deadline ← Py.ofExcept (deadlineAfter now 2 ttl)
  pure (.recvResponse identity deadline)

/-- `self.broker.issue()` -/
def issueGrant (session : ℕ) (grant : Grant) : Py UnlockService Unit :=
  Py.modify fun service =>
    { service with
      broker := service.broker.issue service.time
      history := service.history ++ [.grant session grant] }

/-- `success` of both counters. -/
def clearFailures (ip deviceId : PyStr) : Py UnlockService Unit :=
  Py.modify fun service =>
    { service with
      ipBackoff := service.ipBackoff.success ip
      devBackoff := service.devBackoff.success deviceId
      accounts := service.accounts ++ [.cleared .ip ip, .cleared .device deviceId] }

/-- What the grant is issued for. -/
def grantFor (peer : Peer) (identity : Identity) (nonce : PyStr) (signature : Option Json)
    (entry : Pending) (service : UnlockService) : Grant :=
  ⟨peer, identity, nonce, signature, entry, service.time, service.data, service.pending,
    service.left .ip peer.ip, service.left .device identity.deviceId⟩

/-- `_session` once the response is accepted. -/
def succeed (session : ℕ) (peer : Peer) (identity : Identity) (nonce : PyStr)
    (signature : Option Json) (entry : Pending) : Py UnlockService Place := do
  let grant ← Py.read (grantFor peer identity nonce signature entry)
  clearFailures peer.ip identity.deviceId
  issueGrant session grant
  let target ← configItem "target_id"
  let _ ← record platform answers "unlock_authorized" (some "Unlock AUTHORIZED") "high" ["unlock"]
    [(py "ip", .str peer.ip), (py "device", .str identity.deviceId), (py "target", target)]
  Py.modify fun service => { service with history := service.history ++ [.authorized session] }
  pure .sendResult

/-- `_session` from the response to the result. -/
def afterResponse (session : ℕ) (peer : Peer) (identity : Identity) (response : Dict) :
    Py UnlockService Place :=
  if lookup (py "type") response ≠ some (.str (py "response")) then
    fail platform answers peer (some identity.deviceId) "bad_response_type".toList false
  else do
    let signature := lookup (py "signature") response
    let verdict ← checkResponse platform identity.device (lookup (py "nonce") response) signature
    match verdict with
    | .refused reason =>
        fail platform answers peer (some identity.deviceId) reason.toList false
    | .accepted nonce entry => succeed platform answers session peer identity nonce signature entry

/-- `_send` when the wait is over: a closed connection is no error. -/
def sent (raises : Option PyExc) : Py UnlockService Unit :=
  Py.raiseIf (raises.filter fun exc => exc.kind ≠ .connectionClosed)

/-- The code between two awaits inside the `try` of `handle`; `none` if the await cannot
end in this way. -/
def sessionBody (session : ℕ) (peer : Peer) : Place → Awaited →
    Option (Py UnlockService Place)
  | .closing true, .finished raises => some (do
      Py.raiseIf raises
      pure .done)
  | .recvHello admission _, awaited => (received awaited).map fun message => do
      let hello ← Py.ofExcept message
      afterHello platform answers peer admission hello
  | .sendChallenge identity _, .finished raises => some (do
      sent raises
      afterChallenge identity)
  | .recvResponse identity _, awaited => (received awaited).map fun message => do
      let response ← Py.ofExcept message
      afterResponse platform answers session peer identity response
  | .sendRejection hits false, .finished raises => some (do
      sent raises
      failRest platform answers hits
      pure .done)
  | .sendResult, .finished raises => some (do
      sent raises
      pure .done)
  | _, _ => none

/-- The `except` clauses of `handle`. -/
def recover (peer : Peer) (exc : PyExc) : Py UnlockService Place :=
  match exc.kind with
  | .connectionClosed => pure .done
  | .timeout | .value | .key | .type | .runtime =>
      fail platform answers peer none ("malformed_or_late:".toList ++ exc.name) true
  | .base => Py.raise exc
  | .attribute | .os | .other =>
      fail platform answers peer none "internal_error".toList true

/-- The `try` of `handle` around its code. -/
def handled (peer : Peer) (body : Py UnlockService Place) : Py UnlockService Place :=
  Py.tryExcept body (recover platform answers peer)

/-- The `finally` clause of `handle`, once the session is over. -/
def finished (body : Py UnlockService Place) (service : UnlockService) :
    UnlockService × Place :=
  match body service with
  | (.ok .done, after) => ({ after with active := after.active - 1 }, .done)
  | (.ok place, after) => (after, place)
  | (.error _, after) => ({ after with active := after.active - 1 }, .done)

/-- `handle` between two awaits. -/
def resume (session : ℕ) (peer : Peer) (place : Place) (awaited : Awaited)
    (service : UnlockService) : Option (UnlockService × Place) :=
  match place, awaited with
  | .closing false, .finished _ => some (service, .done)
  | .sendRejection hits true, .finished raises =>
      some (finished (do
        sent raises
        failRest platform answers hits
        pure .done) service)
  | place, awaited =>
      (sessionBody platform answers session peer place awaited).map fun body =>
        finished (handled platform answers peer body) service

/-- `self.cfg.reload_if_changed()` -/
def reloadConfig (access : FileAccess) : Py UnlockService Unit :=
  Py.zoom UnlockService.config (fun config service => { service with config := config })
    (reloadIfChanged access)

/-- `handle` up to its first await. -/
def connect (peer : Peer) (access : FileAccess) (service : UnlockService) :
    UnlockService × Place :=
  match (item service.data "max_connections").map (Json.atLeast service.active) with
  | .ok (some true) => (service, .closing false)
  | .ok (some false) =>
      finished (handled platform answers peer (do
        reloadConfig access
        sessionStart platform answers peer))
        { service with active := service.active + 1 }
  | _ => (service, .done)

end Handle

end RemoteUnlock.Listener
