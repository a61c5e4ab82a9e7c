import RemoteUnlock.Common.Config
import RemoteUnlock.Common.SignedMessage

/-!
# The reference client

A run of `unlock` sends its hello, waits for a challenge, checks it, signs the response and
waits for the result.  It signs one message at most, and only for a challenge that carries
its own device and target and that the pinned key of the laptop has signed
(`answer_eq_ok`).
-/

namespace RemoteUnlock.Client

open Python Python.Items Common

/-- The arguments of `unlock`, with the public half of `device_key`. -/
structure Arguments (Key : Type) where
  deviceKey : Key
  deviceId : PyStr
  laptopPub : Key
  targetId : PyStr

/-- A challenge that was accepted, as far as the response is about it, with the bytes that
the laptop has signed and those that the client signs. -/
structure Answer where
  nonce : PyStr
  issuedMs : Json
  serverSig : Option Json
  challenge : Bytes
  response : Bytes

/-- Where a run waits. -/
inductive Place where
  /-- For the challenge. -/
  | challenge
  /-- For the response to be sent. -/
  | sending
  /-- For the result. -/
  | result
  | done (outcome : Except PyExc Bool)

/-- A run, with what it has signed. -/
structure Run (Key : Type) where
  arguments : Arguments Key
  place : Place
  answered : Option Answer

def serverAuthError : PyExc := ⟨.other, "ServerAuthError".toList⟩

/-- `ch[key]` -/
def item (key : PyStr) (members : Dict) : Except PyExc Json :=
  match lookup key members with
  | some value => .ok value
  | none => .error .keyError

section Code

variable {Key : Type} (crypto : Crypto Key) (int : Json → Except PyExc ℤ)

/-- `signed_message` of a nonce that may be no text. -/
def messageOf (role : PyStr) (nonce issuedMs : Json) (deviceId targetId : PyStr) :
    Except PyExc (PyStr × Bytes) :=
  match nonce with
  | .str nonce =>
      (signedMessageOf int role nonce issuedMs deviceId targetId).map fun message =>
        (nonce, message)
  | _ => .error .typeError

/-- `unlock` from the challenge to the message it signs. -/
def answer (arguments : Arguments Key) (challenge : Json) : Except PyExc Answer :=
  match challenge with
  | .obj members =>
      if lookup (py "type") members ≠ some (.str (py "challenge")) ∨
          lookup (py "target_id") members ≠ some (.str arguments.targetId) then
        .error serverAuthError
      else do
        let nonce ← item (py "nonce") members
        let issuedMs ← item (py "issued_ms") members
        let (_, smsg) ← messageOf int (py "challenge") nonce issuedMs arguments.deviceId
          arguments.targetId
        if verifySig crypto arguments.laptopPub smsg (lookup (py "server_sig") members) then do
          let (text, rmsg) ← messageOf int (py "response") nonce issuedMs arguments.deviceId
            arguments.targetId
          .ok ⟨text, issuedMs, lookup (py "server_sig") members, smsg, rmsg⟩
        else .error serverAuthError
  | _ => .error .attributeError

/-- `res.get("ok") is True` -/
def readResult : Json → Except PyExc Bool
  | .obj members => .ok (decide (lookup (py "ok") members = some (.bool true)))
  | _ => .error .attributeError

/-- A run that has sent its hello. -/
def Run.start (arguments : Arguments Key) : Run Key := ⟨arguments, .challenge, none⟩

/-- The run when the wait for a message ends, with what `json.loads` makes of it. -/
def Run.received (run : Run Key) (message : Except PyExc Json) : Run Key :=
  match run.place with
  | .challenge =>
      match message.bind (answer crypto int run.arguments) with
      | .ok answer => { run with place := .sending, answered := some answer }
      | .error exc => { run with place := .done (.error exc) }
  | .result => { run with place := .done (message.bind readResult) }
  | _ => run

/-- The run when the response is sent. -/
def Run.sent (run : Run Key) (raises : Option PyExc) : Run Key :=
  match run.place, raises with
  | .sending, none => { run with place := .result }
  | .sending, some exc => { run with place := .done (.error exc) }
  | _, _ => run

end Code

/-! ## What a run signs -/

variable {Key : Type} {crypto : Crypto Key} {int : Json → Except PyExc ℤ}

/-- The answer is one to a challenge of the laptop for the device and the target of the
run, and the response repeats its nonce and its time. -/
structure Answers (crypto : Crypto Key) (int : Json → Except PyExc ℤ) (arguments : Arguments Key)
    (answer : Answer) (issuedMs : ℤ) : Prop where
  converted : int answer.issuedMs = .ok issuedMs
  challenge : signedMessage (py "challenge") answer.nonce issuedMs arguments.deviceId
    arguments.targetId = .ok answer.challenge
  verified : verifySig crypto arguments.laptopPub answer.challenge answer.serverSig = true
  response : signedMessage (py "response") answer.nonce issuedMs arguments.deviceId
    arguments.targetId = .ok answer.response

theorem messageOf_eq_ok {role : PyStr} {nonce issuedMs : Json} {deviceId targetId text : PyStr}
    {message : Bytes}
    (built : messageOf int role nonce issuedMs deviceId targetId = .ok (text, message)) :
    nonce = .str text ∧ ∃ milliseconds, int issuedMs = .ok milliseconds ∧
      signedMessage role text milliseconds deviceId targetId = .ok message := by
  unfold messageOf at built
  split at built
  next own =>
    cases signed : signedMessageOf int role own issuedMs deviceId targetId with
    | error exc => simp [signed, Except.map] at built
    | ok bytes =>
        simp only [signed, Except.map, Except.ok.injEq, Prod.mk.injEq] at built
        obtain ⟨rfl, rfl⟩ := built
        exact ⟨rfl, signedMessageOf_eq_ok signed⟩
  · contradiction

theorem answer_eq_ok {arguments : Arguments Key} {challenge : Json} {made : Answer}
    (answered : answer crypto int arguments challenge = .ok made) :
    (∃ issuedMs, Answers crypto int arguments made issuedMs) ∧
      ∃ members, challenge = .obj members ∧ made.serverSig = lookup (py "server_sig") members := by
  unfold answer at answered
  split at answered
  next members =>
    split at answered
    · contradiction
    · obtain ⟨nonce, _, answered⟩ := bind_eq_ok.mp answered
      obtain ⟨issuedMs, _, answered⟩ := bind_eq_ok.mp answered
      obtain ⟨⟨text, smsg⟩, isChallenge, answered⟩ := bind_eq_ok.mp answered
      obtain ⟨rfl, milliseconds, converted, challenge⟩ := messageOf_eq_ok isChallenge
      simp only at answered
      split at answered
      next verified =>
        obtain ⟨⟨own, rmsg⟩, isResponse, answered⟩ := bind_eq_ok.mp answered
        obtain ⟨same, again, convertedAgain, response⟩ := messageOf_eq_ok isResponse
        obtain rfl := Json.str.inj same
        obtain rfl := Except.ok.inj (converted.symm.trans convertedAgain)
        obtain rfl := Except.ok.inj answered
        exact ⟨⟨milliseconds, converted, challenge, verified, response⟩, members, rfl, rfl⟩
      · contradiction
  · contradiction

end RemoteUnlock.Client
