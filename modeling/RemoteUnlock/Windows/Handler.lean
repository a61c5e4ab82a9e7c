import Mathlib.Logic.Function.Basic
import RemoteUnlock.Library.Runs
import RemoteUnlock.Windows.Service

/-!
# The handler of the Windows listener

Any number of connections run the handler on one service.  It can be interrupted where it
sends and where it waits; in between it runs in one piece.  What a step can do to the
service, to the places of the connections and to the history is said once, by
`step_cases`.
-/

namespace RemoteUnlock.Windows

open Python Python.Items Common Library

/-- What the named pipe is like: nobody waits at it, writing to it fails, or it works. -/
inductive Pipe where
  | absent
  | broken
  | works
  deriving DecidableEq

/-- Where the handler of a connection stands. -/
inductive Place where
  | absent
  /-- It sends the challenge. -/
  | greeting
  /-- It waits for the response. -/
  | awaiting
  /-- It sends a refusal, after which it may send an alert. -/
  | refusing (alerts : Bool)
  /-- It sends what `verify` returned. -/
  | answering (ok : Bool) (action : Action)
  | done
  deriving DecidableEq

/-- A call of `verify` that returned `True`. -/
structure Acceptance (Value : Type) where
  connection : ℕ
  action : Action
  nonce : Json
  timestamp : Value
  signature : Json
  time : ℚ

inductive Event (Value : Type) where
  | issued (challenge : Challenge)
  | accepted (acceptance : Acceptance Value)
  /-- A call of `signal_credential_provider`. -/
  | signalled (connection : ℕ) (success : Bool)
  /-- A write to the pipe. -/
  | wrote (connection : ℕ) (payload : Bytes)
  /-- A call of `trigger_shutdown`. -/
  | shutdown (connection : ℕ)
  | alerted (kind : PyStr)

/-- A response as the handler takes it up. -/
inductive Request (Value : Type) where
  | refused (alerts : Bool)
  | command (nonce : Json) (timestamp : Value) (signature : Json) (action : Action)

variable {Value : Type} (platform : Platform Value)

/-- `msg[key]` -/
def item (key : PyStr) (members : List (PyStr × Json)) : Except PyExc Json :=
  match lookup key members with
  | some value => .ok value
  | none => .error .keyError

/-- The handler from `json.loads` to the call of `verify`. -/
def readRequest (message : Json) : Except PyExc (Request Value) :=
  match message with
  | .obj members =>
      if lookup (py "type") members ≠ some (.str (py "response")) then .ok (.refused false)
      else
        match Action.ofJson ((lookup (py "action") members).getD (.str (py "unlock"))) with
        | none => .ok (.refused false)
        | some action =>
            if action = .shutdown ∧ platform.shutdownEnabled = false then .ok (.refused true)
            else do
              let nonce ← item (py "nonce") members
              let timestamp ← platform.float (← item (py "timestamp") members)
              let signature ← item (py "signature") members
              .ok (.command nonce timestamp signature action)
  | _ => .error .attributeError

/-- What `signal_credential_provider` writes. -/
def payload (success : Bool) : Except PyExc Bytes :=
  if success then (encodeStr platform.password).map fun password => 1 :: password else .ok [0]

/-- `signal_credential_provider(success, windows_password)`, with what it raises. -/
def signalCredentialProvider (connection : ℕ) (success : Bool) (pipe : Pipe) :
    List (Event Value) × Option PyExc :=
  if pipe = .absent then ([.signalled connection success], none)
  else
    match payload platform success with
    | .error exc => ([.signalled connection success], some exc)
    | .ok bytes =>
        (.signalled connection success :: if pipe = .works then [.wrote connection bytes] else [],
          none)

/-- The `except` clauses of the handler. -/
def handle (connection : ℕ) (exc : PyExc) (pipe : Pipe) : List (Event Value) :=
  match exc.kind with
  | .timeout | .key | .value => (signalCredentialProvider platform connection false pipe).1
  | _ => []

/-- The handler behind the sending of what `verify` returned. -/
def conclude (connection : ℕ) (ok : Bool) (action : Action) (pipe again : Pipe) :
    List (Event Value) :=
  match action with
  | .unlock =>
      let signal := signalCredentialProvider platform connection ok pipe
      match signal.2 with
      | some exc => signal.1 ++ handle platform connection exc again
      | none => signal.1 ++ [.alerted (if ok then py "unlock_success" else py "unlock_failed")]
  | .shutdown =>
      if ok then [.shutdown connection, .alerted (py "shutdown_triggered")]
      else [.alerted (py "shutdown_rejected")]

/-! ## The connections -/

structure World (Value : Type) where
  now : ℚ≥0
  service : UnlockService
  arrived : ℕ
  place : ℕ → Place
  history : List (Event Value)

/-- What happens next: time passes, a connection comes, or what a handler waits for ends. -/
inductive Label where
  | pass (seconds : ℚ≥0)
  | connect (random : Bytes) (pipe : Pipe)
  | greeted (connection : ℕ) (failure : Option PyExc) (pipe : Pipe)
  | received (connection : ℕ) (message : Except PyExc Json) (pipe : Pipe)
  | sent (connection : ℕ) (failure : Option PyExc) (pipe again : Pipe)

namespace World

def start : World Value := ⟨0, .init, 0, fun _ => .absent, []⟩

/-- A connection gets to a place. -/
def move (world : World Value) (connection : ℕ) (place : Place) (events : List (Event Value)) :
    World Value :=
  { world with
    place := Function.update world.place connection place
    history := world.history ++ events }

def step (world : World Value) : Label → World Value
  | .pass seconds => { world with now := world.now + seconds }
  | .connect random pipe =>
      let issued := world.service.issueChallenge platform world.now (hex random)
      let come := { world with service := issued.2, arrived := world.arrived + 1 }
      match issued.1 with
      | .ok challenge => come.move world.arrived .greeting [.issued challenge]
      | .error exc => come.move world.arrived .done (handle platform world.arrived exc pipe)
  | .greeted connection failure pipe =>
      match world.place connection, failure with
      | .greeting, none => world.move connection .awaiting []
      | .greeting, some exc => world.move connection .done (handle platform connection exc pipe)
      | _, _ => world
  | .received connection message pipe =>
      match world.place connection with
      | .awaiting =>
          match message.bind (readRequest platform) with
          | .error exc => world.move connection .done (handle platform connection exc pipe)
          | .ok (.refused alerts) => world.move connection (.refusing alerts) []
          | .ok (.command nonce timestamp signature action) =>
              let verified := world.service.verify platform world.now nonce timestamp signature
                (.str action.text)
              { world with service := verified.2 }.move connection (.answering verified.1 action)
                (if verified.1 then
                  [.accepted ⟨connection, action, nonce, timestamp, signature, world.now⟩]
                else [])
      | _ => world
  | .sent connection failure pipe again =>
      match world.place connection, failure with
      | .refusing alerts, none =>
          world.move connection .done (if alerts then [.alerted (py "shutdown_rejected")] else [])
      | .answering ok action, none =>
          world.move connection .done (conclude platform connection ok action pipe again)
      | .refusing _, some exc | .answering _ _, some exc =>
          world.move connection .done (handle platform connection exc pipe)
      | _, _ => world

end World

end RemoteUnlock.Windows
