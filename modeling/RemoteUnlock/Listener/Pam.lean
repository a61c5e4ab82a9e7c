import RemoteUnlock.Listener.Session

/-!
# PAM requests

`handle_pam` as a machine that runs from one await to the next.  Whatever is raised,
the `finally` clause writes a reply: `1` exactly if the request has taken the grant
and nothing an `except` clause catches was raised behind that.
-/

namespace RemoteUnlock.Listener

open Python Python.Items Common Audit

/-! ## The machine -/

/-- The process at the other end of the socket. -/
structure Credentials where
  pid : ℤ
  uid : ℤ

/-- Where a PAM request waits. -/
inductive PamPlace where
  /-- For the request line; the user id was checked in a configuration. -/
  | readline (credentials : Credentials) (uidData : Dict) (deadline : ℚ)
  /-- For the event of the grant broker; the user was checked too. -/
  | consuming (credentials : Credentials) (uidData : Dict) (request : Dict) (userData : Dict)
      (deadline : Option ℚ)
  /-- For the reply to be sent. -/
  | draining
  | done

/-- How an await of a request ends: a line is there, an operation finishes or raises, the
event wakes the request, or the time is over. -/
inductive PamAwaited where
  | line (raw : Bytes)
  | drained (raises : Option PyExc)
  | raised (exc : PyExc)
  | woken
  | timedOut

/-- How the code in front of the next await, or of the `finally` clause, ends; what the
request has taken where `ok` is true. -/
inductive PamStep where
  | waits (place : PamPlace)
  | ends (ok : Option Taking)

section HandlePam

variable {Key : Type} (platform : Platform Key) (answers : Answers) (request : ℕ)

/-- `uid in self.cfg["pam_allowed_uids"]` -/
def uidAllowed (uid : ℤ) (data : Dict) : Except PyExc Bool := do
  compared (Json.containsNumber uid (← item data "pam_allowed_uids"))

/-- `req.get("user") == self.cfg["unlock_user"]` -/
def userMatches (message : Dict) (data : Dict) : Except PyExc Bool := do
  let user ← item data "unlock_user"
  pure (((lookup (py "user") message).getD .null).pyEq user)

/-- `json.loads` of a line, as an object with a `get`. -/
def parseRequest (raw : Bytes) : Except PyExc Dict := do
  match ← platform.loadsBytes raw with
  | .obj members => pure members
  | _ => throw .attributeError

/-- The record behind `consume`. -/
def recordConsume (credentials : Credentials) (message : Dict) (ok : Bool) :
    Py UnlockService Unit := do
  let user ← Py.ofExcept (item message "user")
  let _ ← record platform answers (if ok then "pam_grant_consumed" else "pam_no_grant")
    (if ok then some "PAM unlock granted" else none) "default" ["key"]
    [(py "user", user), (py "uid", .int credentials.uid), (py "pid", .int credentials.pid)]
  pure ()

/-- `consume` has taken the grant. -/
def afterTaken (credentials : Credentials) (taking : Taking) : Py UnlockService PamStep := do
  Py.modify fun service => { service with history := service.history ++ [.taken request taking] }
  Py.tryExcept
    (do
      recordConsume platform answers credentials taking.request true
      pure (.ends (some taking)))
    -- `ok` is still true where what was raised is no `Exception`
    fun exc => if exc.isException then Py.raise exc else pure (.ends (some taking))

/-- `consume` has given up. -/
def afterRefused (credentials : Credentials) (message : Dict) : Py UnlockService PamStep := do
  recordConsume platform answers credentials message false
  pure (.ends none)

/-- `self.broker.consume` from the top of its loop. -/
def consumeTurn (credentials : Credentials) (uidData message userData : Dict)
    (deadline : Option ℚ) : Py UnlockService PamStep := do
  let now ← Py.read UnlockService.time
  let turn ← Py.zoom UnlockService.broker
    (fun broker service => { service with broker := broker })
    (fun broker => let turned := broker.turn now deadline request; (.ok turned.1, turned.2))
  match turn with
  | .taken =>
      afterTaken platform answers request credentials
        ⟨credentials.uid, message, uidData, userData, now⟩
  | .refused => afterRefused platform answers credentials message
  | .waits => pure (.waits (.consuming credentials uidData message userData deadline))

/-- The code behind the credentials. -/
def pamStart (credentials : Except PyExc Credentials) : Py UnlockService PamStep := do
  let credentials ← Py.ofExcept credentials
  let data ← Py.read UnlockService.data
  let allowed ← Py.ofExcept (uidAllowed credentials.uid data)
  if allowed then do
    let now ← Py.read UnlockService.time
    pure (.waits (.readline credentials data (now + 3)))
  else do
    let _ ← record platform answers "pam_denied" (some "PAM request from disallowed uid") "high"
      ["no_entry"] [(py "uid", .int credentials.uid), (py "pid", .int credentials.pid)]
    pure (.ends none)

/-- The code behind the request line. -/
def afterLine (credentials : Credentials) (uidData : Dict) (raw : Bytes) :
    Py UnlockService PamStep := do
  let message ← Py.ofExcept (parseRequest platform raw)
  let data ← Py.read UnlockService.data
  let same ← Py.ofExcept (userMatches message data)
  if same then do
    let wait ← configItem "pam_wait"
    let now ← Py.read UnlockService.time
    let deadline ← Py.ofExcept (deadlineAfter now 0 wait)
    consumeTurn platform answers request credentials uidData message data deadline
  else do
    let _ ← record platform answers "pam_denied" none "default" []
      [(py "user", .str ((platform.str ((lookup (py "user") message).getD .null)).take 64)),
        (py "uid", .int credentials.uid)]
    pure (.ends none)

/-- The wait for the event is over. -/
def leaveWait : Py UnlockService Unit :=
  Py.modify fun service => { service with broker := service.broker.leave request }

/-- The code between two awaits inside the `try` of `handle_pam`; `none` if the await cannot
end in this way. -/
def pamBody : PamPlace → PamAwaited → Option (Py UnlockService PamStep)
  | .readline credentials uidData _, .line raw =>
      some (afterLine platform answers request credentials uidData raw)
  | .readline _ _ _, .raised exc => some (Py.raise exc)
  | .readline _ _ _, .timedOut => some (Py.raise .timeoutError)
  | .consuming credentials uidData message userData deadline, .woken => some (do
      leaveWait request
      consumeTurn platform answers request credentials uidData message userData deadline)
  | .consuming _ _ _ _ _, .raised exc => some (do
      leaveWait request
      Py.raise exc)
  | .consuming credentials _ message _ _, .timedOut => some (do
      leaveWait request
      afterRefused platform answers credentials message)
  | _, _ => none

/-- The reply of the `finally` clause, up to where it waits for it to be sent. -/
def reply (ok : Option Taking) (service : UnlockService) : UnlockService × PamPlace :=
  match answers.writeRaises with
  | some _ => (service, .done)
  | none =>
      match ok with
      | some taking =>
          ({ service with history := service.history ++ [.granted request taking] }, .draining)
      | none => ({ service with history := service.history ++ [.denied request] }, .draining)

/-- The `except` and the `finally` clause. -/
def concluded (body : Py UnlockService PamStep) (service : UnlockService) :
    UnlockService × PamPlace :=
  match body service with
  | (.ok (.waits place), after) => (after, place)
  | (.ok (.ends ok), after) => reply answers request ok after
  | (.error _, after) => reply answers request none after

/-- `handle_pam` up to its first await. -/
def pamConnect (credentials : Except PyExc Credentials) (service : UnlockService) :
    UnlockService × PamPlace :=
  concluded answers request (pamStart platform answers credentials) service

/-- `handle_pam` between two awaits. -/
def pamResume (place : PamPlace) (awaited : PamAwaited) (service : UnlockService) :
    Option (UnlockService × PamPlace) :=
  match place, awaited with
  | .draining, .drained _ => some (service, .done)
  | place, awaited =>
      (pamBody platform answers request place awaited).map fun body =>
        concluded answers request body service

/-- A wake-up needs an event that has woken the request, a timeout a deadline that has
passed. -/
def pamPossible (service : UnlockService) : PamPlace → PamAwaited → Bool
  | .readline _ _ deadline, .timedOut => past service.time (some deadline)
  | .consuming _ _ _ _ deadline, .timedOut => past service.time deadline
  | .consuming _ _ _ _ _, .woken => service.broker.event.woken request
  | _, _ => true

end HandlePam

end RemoteUnlock.Listener
