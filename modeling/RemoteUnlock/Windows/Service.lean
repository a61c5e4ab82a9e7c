import Mathlib.Algebra.Order.Nonneg.Field
import RemoteUnlock.Common.Encodings

/-!
# The unlock service of the Windows listener

All connections share the challenges that wait for a response, the nonces that have been
used and the times of the last failures.  `verify` uses up the nonce it is given before it
checks anything else about it, and says yes only to a signature of the phone over the
action, the nonce and the timestamp (`verifyAction_cases`).
-/

namespace RemoteUnlock.Windows

open Python Python.Items Common

/-- What the listener is given: the two keys, the password it holds, whether shutdowns are
enabled, and the floats of the timestamps. -/
structure Platform (Value : Type) where
  /-- `self.laptop_private_key.sign(message, ECDSA(SHA256()))` -/
  sign : Bytes → Bytes
  /-- `self.phone_public_key.verify(signature, message, ECDSA(SHA256()))` does not raise. -/
  verify : Bytes → Bytes → Bool
  password : PyStr
  shutdownEnabled : Bool
  /-- What `time.time()` looks like in an f-string. -/
  clockText : ℚ → Text
  /-- `float(value)` -/
  float : Json → Except PyExc Value
  /-- What a float looks like in an f-string. -/
  floatText : Value → Text
  /-- `abs(now - timestamp) > limit` -/
  isApart : ℚ → Value → ℚ → Bool

def nonceTtl : ℚ := 10
def maxClockSkew : ℚ := 5
def rateLimitWindow : ℚ := 60
def rateLimitMaxFails : ℕ := 5

inductive Action where
  | unlock
  | shutdown
  deriving DecidableEq

def Action.text : Action → PyStr
  | .unlock => py "unlock"
  | .shutdown => py "shutdown"

/-- The action a value names. -/
def Action.ofJson (value : Json) : Option Action :=
  if value = .str (py "unlock") then some .unlock
  else if value = .str (py "shutdown") then some .shutdown
  else none

structure UnlockService where
  pendingNonces : PyDict PyStr ℚ
  usedNonces : List PyStr
  failTimes : List ℚ

structure Challenge where
  nonce : PyStr
  timestamp : ℚ
  signature : PyStr

/-- `f"{action}:{nonce}:{timestamp}".encode()` -/
def signedText (action nonce : PyStr) (timestamp : Text) : Except PyExc Bytes :=
  encodeStr (action ++ py ":" ++ nonce ++ py ":" ++ ofText timestamp)

theorem signedText_ofText (action nonce timestamp : Text) :
    signedText (ofText action) (ofText nonce) timestamp =
      .ok (encode (action ++ [':'] ++ nonce ++ [':'] ++ timestamp)) := by
  rw [← encodeStr_ofText]
  simp only [ofText, List.map_append]
  rfl

namespace UnlockService

variable {Value : Type} (platform : Platform Value)

def init : UnlockService := ⟨.empty, [], []⟩

/-- `issue_challenge()` at a time, with the nonce the system yields. -/
def issueChallenge (service : UnlockService) (now : ℚ) (nonce : PyStr) :
    Except PyExc Challenge × UnlockService :=
  let pending := (service.pendingNonces.set nonce now).filter fun issued => now - issued < nonceTtl
  let challenge := do
    let message ← signedText (py "challenge") nonce (platform.clockText now)
    .ok ⟨nonce, now, hex (platform.sign message)⟩
  (challenge, { service with pendingNonces := pending })

/-- What `_rate_limited()` does to the times. -/
def forget (service : UnlockService) (now : ℚ) : UnlockService :=
  { service with
    failTimes := service.failTimes.dropWhile fun time => rateLimitWindow < now - time }

/-- `_record_failure()` -/
def recordFailure (service : UnlockService) (now : ℚ) : UnlockService :=
  { service with failTimes := service.failTimes ++ [now] }

/-- The signature is one of the phone over the action, the nonce and the timestamp. -/
def isSigned (action : Action) (nonce : PyStr) (timestamp : Value) (signature : Json) : Bool :=
  match signature with
  | .str text =>
      match signedText action.text nonce (platform.floatText timestamp), fromHex text with
      | .ok message, some sig => platform.verify sig message
      | _, _ => false
  | _ => false

/-- `verify` of an action that it knows. -/
def verifyAction (service : UnlockService) (now : ℚ) (nonce : Json) (timestamp : Value)
    (signature : Json) (action : Action) : Bool × UnlockService :=
  let service := service.forget now
  if rateLimitMaxFails ≤ service.failTimes.length then (false, service)
  else
    match nonce with
    | .str nonce =>
        match service.pendingNonces.get nonce with
        | none => (false, service.recordFailure now)
        | some issueTime =>
            let service := { service with pendingNonces := service.pendingNonces.pop nonce }
            if nonce ∈ service.usedNonces then (false, service.recordFailure now)
            else if nonceTtl < now - issueTime then (false, service.recordFailure now)
            else if platform.isApart now timestamp (maxClockSkew + nonceTtl) then
              (false, service.recordFailure now)
            else if isSigned platform action nonce timestamp signature then
              (true, { service with usedNonces := nonce :: service.usedNonces })
            else (false, service.recordFailure now)
    | _ => (false, service.recordFailure now)

/-- `verify(nonce, timestamp, signature_hex, action)` at a time.  Whatever is raised inside
it is caught there, and recorded as a failure. -/
def verify (service : UnlockService) (now : ℚ) (nonce : Json) (timestamp : Value)
    (signature action : Json) : Bool × UnlockService :=
  match Action.ofJson action with
  | none => (false, service.recordFailure now)
  | some action => service.verifyAction platform now nonce timestamp signature action

/-- An execution of `verify` that says yes. -/
structure Approval (service : UnlockService) (now : ℚ) (nonce : Json) (timestamp : Value)
    (signature : Json) (action : Action) (name : PyStr) (issueTime : ℚ) : Prop where
  named : nonce = .str name
  pending : service.pendingNonces.get name = some issueTime
  unused : name ∉ service.usedNonces
  fresh : now - issueTime ≤ nonceTtl
  signed : isSigned platform action name timestamp signature = true

/-- It says yes to a fresh nonce that is signed for, which it marks as used; saying
no it marks none.  It makes no nonce pending. -/
theorem verifyAction_cases (service : UnlockService) (now : ℚ) (nonce : Json)
    (timestamp : Value) (signature : Json) (action : Action) :
    let verified := service.verifyAction platform now nonce timestamp signature action
    (∀ key issued, verified.2.pendingNonces.get key = some issued →
        service.pendingNonces.get key = some issued) ∧
      ((verified.1 = false ∧ verified.2.usedNonces = service.usedNonces) ∨
        verified.1 = true ∧ ∃ name issueTime,
          service.Approval platform now nonce timestamp signature action name issueTime ∧
            verified.2.usedNonces = name :: service.usedNonces) := by
  have popped {name key : PyStr} {issued : ℚ}
      (found : ((service.forget now).pendingNonces.pop name).get key = some issued) :
      service.pendingNonces.get key = some issued := by
    rw [PyDict.get_pop] at found
    split at found
    · contradiction
    · exact found
  simp only [verifyAction]
  split
  · exact ⟨fun _ _ found => found, .inl ⟨rfl, rfl⟩⟩
  · split
    next name =>
      split
      · exact ⟨fun _ _ found => found, .inl ⟨rfl, rfl⟩⟩
      next issueTime isPending =>
        split
        · exact ⟨fun _ _ => popped, .inl ⟨rfl, rfl⟩⟩
        next unused =>
          split
          · exact ⟨fun _ _ => popped, .inl ⟨rfl, rfl⟩⟩
          next fresh =>
            split
            · exact ⟨fun _ _ => popped, .inl ⟨rfl, rfl⟩⟩
            · split
              next signed =>
                refine ⟨fun _ _ => popped, .inr ⟨rfl, name, issueTime, ?_, rfl⟩⟩
                exact ⟨rfl, isPending, unused, not_lt.mp fresh, signed⟩
              · exact ⟨fun _ _ => popped, .inl ⟨rfl, rfl⟩⟩
    · exact ⟨fun _ _ found => found, .inl ⟨rfl, rfl⟩⟩

/-- The only nonce a challenge makes pending is its own, at its time. -/
theorem issueChallenge_pending {service : UnlockService} {now : ℚ} {nonce key : PyStr}
    {issued : ℚ}
    (found : (service.issueChallenge platform now nonce).2.pendingNonces.get key = some issued) :
    key = nonce ∧ issued = now ∨ service.pendingNonces.get key = some issued := by
  have whole := PyDict.get_of_get_filter found
  rw [PyDict.get_set] at whole
  split at whole
  next own => exact .inl ⟨own, (Option.some.inj whole).symm⟩
  · exact .inr whole

theorem isSigned_iff {action : Action} {nonce : PyStr} {timestamp : Value} {signature : Json} :
    isSigned platform action nonce timestamp signature = true ↔
      ∃ text message sig, signature = .str text ∧
        signedText action.text nonce (platform.floatText timestamp) = .ok message ∧
        fromHex text = some sig ∧ platform.verify sig message = true := by
  unfold isSigned
  constructor
  · intro signed
    split at signed
    next text =>
      split at signed
      next message sig made read => exact ⟨text, message, sig, rfl, made, read, signed⟩
      · contradiction
    · contradiction
  · rintro ⟨text, message, sig, rfl, made, read, valid⟩
    simp only [made, read]
    exact valid

end UnlockService

end RemoteUnlock.Windows
