import RemoteUnlock.Library.Runs
import RemoteUnlock.MobileApp.Crypto

/-!
# One command of the app

`runCommand` opens a socket and leaves handlers behind, which then run for whatever the other
side sends, for the biometric prompts, for an error of the socket and for the timer.  The
promise settles at most once, but a result resolves it whether or not a challenge has been
answered (`settlesOnce_and_sound_iff`).
-/

namespace RemoteUnlock.MobileApp

open Python Library
open Windows (Action)

/-- A value that `JSON.parse` yields. -/
inductive Value where
  | null
  | bool (value : Bool)
  | number (value : PyFloat)
  | string (value : PyStr)
  | array (elements : List Value)
  | object (members : List (PyStr × Value))

namespace Value

/-- `${number}` -/
def ofNumber : PyFloat → Text
  | .nan => "NaN".toList
  | .infinity negative => (if negative then ['-'] else []) ++ "Infinity".toList
  | .finite negative magnitude =>
      (if negative ∧ magnitude.mantissa ≠ 0 then ['-'] else []) ++ numberText magnitude

mutual

/-- `${value}`, which throws where an object has a member `toString` of its own. -/
def toText : Value → Option PyStr
  | .null => some (py "null")
  | .bool true => some (py "true")
  | .bool false => some (py "false")
  | .number value => some (ofText (ofNumber value))
  | .string value => some value
  | .array elements => (elementTexts elements).map (List.intercalate (py ","))
  | .object members =>
      if members.any (·.1 = py "toString") then none else some (py "[object Object]")

def elementTexts : List Value → Option (List PyStr)
  | [] => some []
  | .null :: rest => (elementTexts rest).map ([] :: ·)
  | value :: rest => (toText value).bind fun text => (elementTexts rest).map (text :: ·)

end

/-- `value.name` of a value that is not `null`; no value stands for `undefined`. -/
def property (name : PyStr) : Value → Option Value
  | .object members => (members.find? (·.1 = name)).map Prod.snd
  | _ => none

/-- `value === text` -/
def isText (text : PyStr) : Option Value → Bool
  | some (.string value) => value = text
  | _ => false

/-- `value === true` -/
def isTrue : Option Value → Bool
  | some (.bool true) => true
  | _ => false

end Value

/-- What the app calls in `jsrsasign`; both may throw. -/
structure Jsrsasign where
  sign : (privateKeyPem message : PyStr) → Option PyStr
  verify : (publicKeyPem message : PyStr) → (signatureHex : Option Value) → Option Bool

/-- A message of the type `challenge`. -/
structure Challenge where
  nonce : Option Value
  timestamp : Option Value
  signature : Option Value

structure Response where
  action : Action
  nonce : Option Value
  timestamp : Magnitude
  signature : PyStr

inductive Settlement where
  | resolved (value : Bool)
  | rejected (error : String)
  deriving DecidableEq

/-- `${value}` of a value or of `undefined` -/
def interpolate (value : Option Value) : Option PyStr :=
  value.elim (some (py "undefined")) Value.toText

/-- `${action}:${nonce}:${timestamp}` -/
def template (action nonce timestamp : PyStr) : PyStr :=
  action ++ py ":" ++ nonce ++ py ":" ++ timestamp

namespace Jsrsasign

variable (library : Jsrsasign)

def signChallenge (privateKeyPem : PyStr) (nonce : Option Value) (timestamp : Magnitude)
    (action : PyStr) : Option PyStr :=
  (interpolate nonce).bind fun nonce =>
    library.sign privateKeyPem (template action nonce (ofText (numberText timestamp)))

def verifySignature (publicKeyPem : PyStr) (challenge : Challenge) (action : PyStr) : Bool :=
  ((interpolate challenge.nonce).bind fun nonce =>
    (interpolate challenge.timestamp).bind fun timestamp =>
      library.verify publicKeyPem (template action nonce timestamp)
        challenge.signature).getD false

end Jsrsasign

/-- What is seen of a command from outside. -/
inductive Event where
  | challenged (challenge : Challenge)
  /-- The prompt that a challenge has opened ends, with the private key or without. -/
  | prompted (challenge : Challenge) (privateKeyPem : Option PyStr)
  | sent (response : Response)
  | settled (settlement : Settlement)

/-- A command whose socket is there: the variable `settled`, the handlers that wait for a
prompt, and what has happened, the latest first. -/
structure Command where
  settled : Bool
  prompts : List Challenge
  history : List Event

inductive Label where
  /-- A message; none stands for a text that is no JSON. -/
  | message (msg : Option Value)
  /-- One of the prompts ends, at a time. -/
  | prompt (index : ℕ) (privateKeyPem : Option PyStr) (millis : ℕ)
  | error
  | timeout

/-- `!text` does not hold. -/
def truthy (text : Option PyStr) : Option PyStr := text.filter (· ≠ [])

namespace Command

def start : Command := ⟨false, [], []⟩

def finish (command : Command) (settlement : Settlement) : Command :=
  if command.settled then command
  else { command with settled := true, history := .settled settlement :: command.history }

section Handlers

variable (library : Jsrsasign) (action : Action) (laptopPublicKeyPem : PyStr)

/-- A challenge, up to the prompt. -/
def challenge (command : Command) (challenge : Challenge) : Command :=
  let noted := { command with history := .challenged challenge :: command.history }
  if library.verifySignature laptopPublicKeyPem challenge (py "challenge") then
    { noted with prompts := noted.prompts ++ [challenge] }
  else
    noted.finish
      (.rejected "Could not verify this is your paired laptop. Refusing to proceed.")

/-- `ws.onmessage`; a `null` throws where its type is asked for. -/
def message (command : Command) : Option Value → Command
  | none => command.finish (.rejected "Laptop sent malformed data.")
  | some msg =>
      if Value.isText (py "challenge") (msg.property (py "type")) then
        command.challenge library laptopPublicKeyPem
          ⟨msg.property (py "nonce"), msg.property (py "timestamp"),
            msg.property (py "signature")⟩
      else if Value.isText (py "result") (msg.property (py "type")) then
        command.finish (.resolved (Value.isTrue (msg.property (py "ok"))))
      else command

/-- `ws.send`; the socket that `finish` has closed takes nothing. -/
def send (command : Command) (response : Response) : Command :=
  if command.settled then command
  else { command with history := .sent response :: command.history }

/-- A handler behind its prompt; where signing throws, nothing is sent. -/
def prompt (command : Command) (challenge : Challenge) (privateKeyPem : Option PyStr)
    (millis : ℕ) : Command :=
  let noted := { command with history := .prompted challenge privateKeyPem :: command.history }
  match truthy privateKeyPem with
  | none => noted.finish (.rejected "Biometric authentication failed or cancelled.")
  | some key =>
      match library.signChallenge key challenge.nonce (clock millis) action.text with
      | none => noted
      | some signature => noted.send ⟨action, challenge.nonce, clock millis, signature⟩

def step (command : Command) : Label → Command
  | .message msg => command.message library laptopPublicKeyPem msg
  | .prompt index privateKeyPem millis =>
      match command.prompts[index]? with
      | none => command
      | some challenge =>
          { command with prompts := command.prompts.eraseIdx index }.prompt library action
            challenge privateKeyPem millis
  | .error =>
      command.finish
        (.rejected
          ("Connection failed. If this is the first attempt, make sure you've " ++
            "installed the laptop's certificate as trusted (see pairing screen)."))
  | .timeout =>
      command.finish (.rejected "Timed out connecting to laptop. Is it reachable?")

end Handlers

end Command

/-- What happens in a command; the laptop's key is what the phone has stored. -/
def runCommand (library : Jsrsasign) (action : Action) (stored : Option PyStr)
    (labels : List Label) : List Event :=
  match truthy stored with
  | none => [.settled (.rejected "Not paired yet \u2014 pair with your laptop first.")]
  | some key => (run (Command.step library action key) .start labels).history

/-! ## What the promise tells -/

def Event.isSettlement : Event → Bool
  | .settled _ => true
  | _ => false

/-- The promise has settled once or not at all. -/
def SettlesOnce (history : List Event) : Prop := history.countP Event.isSettlement ≤ 1

section Success

variable (library : Jsrsasign) (action : Action) (laptopPublicKeyPem : PyStr)

/-- Behind a challenge of the laptop the prompt has yielded a key, and behind that a response
for the challenge and the action has gone out. -/
def Answered (history : List Event) : Prop :=
  ∃ challenge privateKeyPem response,
    [.sent response, .prompted challenge (some privateKeyPem), .challenged challenge].Sublist
      history ∧
    library.verifySignature laptopPublicKeyPem challenge (py "challenge") = true ∧
    response.nonce = challenge.nonce ∧ response.action = action

/-- Where the promise resolves to `true`, a challenge has been answered. -/
def SoundSuccess : List Event → Prop
  | [] => True
  | event :: earlier =>
      (event = .settled (.resolved true) →
        Answered library action laptopPublicKeyPem earlier) ∧ SoundSuccess earlier

end Success

/-- The result of the laptop that the app takes for a success. -/
def Value.IsSuccess (msg : Value) : Prop :=
  Value.isText (py "challenge") (msg.property (py "type")) = false ∧
    Value.isText (py "result") (msg.property (py "type")) = true ∧
    Value.isTrue (msg.property (py "ok")) = true

/-- A success that comes while the promise is pending comes behind a response. -/
def Command.RespondsFirst (command : Command) (label : Label) : Prop :=
  ∀ msg, label = .message (some msg) → msg.IsSuccess → command.settled = false →
    ∃ response, .sent response ∈ command.history

section Runs

variable {library : Jsrsasign} {action : Action} {laptopPublicKeyPem : PyStr}

theorem Answered.of_sublist {earlier later : List Event}
    (answered : Answered library action laptopPublicKeyPem earlier)
    (inside : earlier.Sublist later) : Answered library action laptopPublicKeyPem later := by
  obtain ⟨challenge, key, response, order, rest⟩ := answered
  exact ⟨challenge, key, response, order.trans inside, rest⟩

theorem Answered.exists_sent {history : List Event}
    (answered : Answered library action laptopPublicKeyPem history) :
    ∃ response, .sent response ∈ history := by
  obtain ⟨challenge, key, response, order, _⟩ := answered
  exact ⟨response, order.subset List.mem_cons_self⟩

/-- An event that is no success leaves the rest as it was. -/
theorem soundSuccess_cons {event : Event} (other : event ≠ .settled (.resolved true))
    (history : List Event) :
    SoundSuccess library action laptopPublicKeyPem (event :: history) ↔
      SoundSuccess library action laptopPublicKeyPem history := by
  rw [SoundSuccess]
  exact and_iff_right fun success => absurd success other

namespace Command

/-- What the handlers rely on. -/
structure Coherent (library : Jsrsasign) (action : Action) (laptopPublicKeyPem : PyStr)
    (command : Command) : Prop where
  settlements : command.history.countP Event.isSettlement = if command.settled then 1 else 0
  verified : ∀ challenge ∈ command.prompts, .challenged challenge ∈ command.history ∧
    library.verifySignature laptopPublicKeyPem challenge (py "challenge") = true
  answered : ∀ response, .sent response ∈ command.history →
    Answered library action laptopPublicKeyPem command.history

theorem coherent_start : Coherent library action laptopPublicKeyPem start :=
  ⟨rfl, fun _ membership => by contradiction, fun _ membership => by contradiction⟩

variable {command : Command}

/-- An event that settles nothing and sends nothing. -/
theorem Coherent.note (coherent : command.Coherent library action laptopPublicKeyPem)
    {event : Event} (pending : event.isSettlement = false)
    (silent : ∀ response, event ≠ .sent response) :
    Coherent library action laptopPublicKeyPem
      { command with history := event :: command.history } := by
  constructor
  · rw [List.countP_cons_of_neg (by rw [pending]; decide)]
    exact coherent.settlements
  · intro challenge membership
    obtain ⟨noted, verifies⟩ := coherent.verified challenge membership
    exact ⟨List.mem_cons_of_mem _ noted, verifies⟩
  · intro response membership
    obtain same | earlier := List.mem_cons.mp membership
    · exact absurd same.symm (silent response)
    · exact (coherent.answered response earlier).of_sublist (List.sublist_cons_self _ _)

theorem Coherent.finish (coherent : command.Coherent library action laptopPublicKeyPem)
    (settlement : Settlement) :
    (command.finish settlement).Coherent library action laptopPublicKeyPem := by
  by_cases settled : command.settled = true
  · rw [Command.finish, if_pos settled]
    exact coherent
  · rw [Command.finish, if_neg settled]
    constructor
    · have none : command.history.countP Event.isSettlement = 0 := by
        rw [coherent.settlements, if_neg settled]
      rw [List.countP_cons_of_pos rfl, none]
      exact (if_pos rfl).symm
    · intro challenge membership
      obtain ⟨noted, verifies⟩ := coherent.verified challenge membership
      exact ⟨List.mem_cons_of_mem _ noted, verifies⟩
    · intro response membership
      obtain same | earlier := List.mem_cons.mp membership
      · contradiction
      · exact (coherent.answered response earlier).of_sublist (List.sublist_cons_self _ _)

theorem Coherent.challenge (coherent : command.Coherent library action laptopPublicKeyPem)
    (challenge : Challenge) :
    (command.challenge library laptopPublicKeyPem challenge).Coherent library action
      laptopPublicKeyPem := by
  have noted : Coherent library action laptopPublicKeyPem
      { command with history := .challenged challenge :: command.history } :=
    coherent.note rfl (fun _ same => by contradiction)
  by_cases verifies :
      library.verifySignature laptopPublicKeyPem challenge (py "challenge") = true
  · rw [Command.challenge, if_pos verifies]
    refine ⟨noted.settlements, ?_, noted.answered⟩
    intro other membership
    obtain waiting | new := List.mem_append.mp membership
    · exact noted.verified other waiting
    · obtain rfl := List.mem_singleton.mp new
      exact ⟨List.mem_cons_self, verifies⟩
  · rw [Command.challenge, if_neg verifies]
    exact noted.finish _

theorem Coherent.message (coherent : command.Coherent library action laptopPublicKeyPem)
    (msg : Option Value) :
    (command.message library laptopPublicKeyPem msg).Coherent library action
      laptopPublicKeyPem := by
  cases msg with
  | none => exact coherent.finish _
  | some msg =>
      rw [Command.message]
      split
      · exact coherent.challenge _
      · split
        · exact coherent.finish _
        · exact coherent

/-- A response goes out behind its challenge and the key. -/
theorem Coherent.prompt (coherent : command.Coherent library action laptopPublicKeyPem)
    {challenge : Challenge} (noted : .challenged challenge ∈ command.history)
    (verifies : library.verifySignature laptopPublicKeyPem challenge (py "challenge") = true)
    (privateKeyPem : Option PyStr) (millis : ℕ) :
    (command.prompt library action challenge privateKeyPem millis).Coherent library action
      laptopPublicKeyPem := by
  have prompted : Coherent library action laptopPublicKeyPem
      { command with history := .prompted challenge privateKeyPem :: command.history } :=
    coherent.note rfl (fun _ same => by contradiction)
  rw [Command.prompt]
  split
  next => exact prompted.finish _
  next key usable =>
    obtain ⟨stored, _⟩ := Option.filter_eq_some_iff.mp usable
    split
    next => exact prompted
    next signature _ =>
      by_cases settled : command.settled = true
      · rw [send, if_pos settled]
        exact prompted
      · rw [send, if_neg settled]
        constructor
        · rw [List.countP_cons_of_neg Bool.false_ne_true]
          exact prompted.settlements
        · intro other membership
          obtain ⟨isNoted, isVerified⟩ := prompted.verified other membership
          exact ⟨List.mem_cons_of_mem _ isNoted, isVerified⟩
        · intro response _
          refine ⟨challenge, key, ⟨action, challenge.nonce, clock millis, signature⟩, ?_,
            verifies, rfl, rfl⟩
          rw [stored]
          exact ((List.singleton_sublist.mpr noted).cons_cons _).cons_cons _

theorem Coherent.step (coherent : command.Coherent library action laptopPublicKeyPem)
    (label : Label) :
    (command.step library action laptopPublicKeyPem label).Coherent library action
      laptopPublicKeyPem := by
  cases label with
  | message msg => exact coherent.message msg
  | prompt index privateKeyPem millis =>
      rw [Command.step]
      split
      next => exact coherent
      next challenge found =>
        obtain ⟨noted, verifies⟩ :=
          coherent.verified challenge (List.mem_of_getElem? found)
        have taken : Coherent library action laptopPublicKeyPem
            { command with prompts := command.prompts.eraseIdx index } :=
          ⟨coherent.settlements, fun other membership =>
            coherent.verified other (List.mem_of_mem_eraseIdx membership), coherent.answered⟩
        exact taken.prompt noted verifies privateKeyPem millis
  | error => exact coherent.finish _
  | timeout => exact coherent.finish _

theorem Coherent.settlesOnce (coherent : command.Coherent library action laptopPublicKeyPem) :
    SettlesOnce command.history := by
  rw [SettlesOnce, coherent.settlements]
  split <;> decide

/-! ## Successes -/

theorem soundSuccess_finish_iff (settlement : Settlement) :
    SoundSuccess library action laptopPublicKeyPem (command.finish settlement).history ↔
      (settlement = .resolved true → command.settled = false →
          Answered library action laptopPublicKeyPem command.history) ∧
        SoundSuccess library action laptopPublicKeyPem command.history := by
  by_cases settled : command.settled = true
  · rw [finish, if_pos settled]
    have vacuous : settlement = .resolved true → command.settled = false →
        Answered library action laptopPublicKeyPem command.history :=
      fun _ pending => absurd settled (by rw [pending]; decide)
    exact (and_iff_right vacuous).symm
  · rw [finish, if_neg settled, SoundSuccess, Event.settled.injEq]
    have pending : command.settled = false := Bool.eq_false_of_not_eq_true settled
    constructor
    · rintro ⟨answered, sound⟩
      exact ⟨fun success _ => answered success, sound⟩
    · rintro ⟨answered, sound⟩
      exact ⟨fun success => answered success pending, sound⟩

theorem soundSuccess_rejected (error : String) :
    SoundSuccess library action laptopPublicKeyPem (command.finish (.rejected error)).history ↔
      SoundSuccess library action laptopPublicKeyPem command.history := by
  rw [soundSuccess_finish_iff]
  exact and_iff_right fun success => by contradiction

theorem soundSuccess_challenge (challenge : Challenge) :
    SoundSuccess library action laptopPublicKeyPem
        (command.challenge library laptopPublicKeyPem challenge).history ↔
      SoundSuccess library action laptopPublicKeyPem command.history := by
  have noted : SoundSuccess library action laptopPublicKeyPem
      (.challenged challenge :: command.history) ↔ _ :=
    soundSuccess_cons (fun same => by contradiction) command.history
  rw [Command.challenge]
  split
  · exact noted
  · exact (soundSuccess_rejected _).trans noted

theorem soundSuccess_prompt (challenge : Challenge) (privateKeyPem : Option PyStr)
    (millis : ℕ) :
    SoundSuccess library action laptopPublicKeyPem
        (command.prompt library action challenge privateKeyPem millis).history ↔
      SoundSuccess library action laptopPublicKeyPem command.history := by
  have noted : SoundSuccess library action laptopPublicKeyPem
      (.prompted challenge privateKeyPem :: command.history) ↔ _ :=
    soundSuccess_cons (fun same => by contradiction) command.history
  rw [Command.prompt]
  split
  · exact (soundSuccess_rejected _).trans noted
  · split
    · exact noted
    · rw [send]
      split
      · exact noted
      · exact (soundSuccess_cons (fun same => by contradiction) _).trans noted

/-- A message keeps the successes sound exactly if it is no success, or one that comes late
enough. -/
theorem Coherent.soundSuccess_message_iff
    (coherent : command.Coherent library action laptopPublicKeyPem) (msg : Option Value) :
    SoundSuccess library action laptopPublicKeyPem
        (command.message library laptopPublicKeyPem msg).history ↔
      SoundSuccess library action laptopPublicKeyPem command.history ∧
        command.RespondsFirst (.message msg) := by
  cases msg with
  | none =>
      have first : command.RespondsFirst (.message none) := fun _ same => by cases same
      rw [and_iff_left first]
      exact soundSuccess_rejected _
  | some msg =>
      by_cases success : msg.IsSuccess
      · obtain ⟨noChallenge, isResult, ok⟩ := success
        rw [Command.message, noChallenge, if_neg Bool.false_ne_true, if_pos isResult, ok,
          soundSuccess_finish_iff, and_comm]
        apply and_congr_right
        intro _
        constructor
        · rintro answered other same _ pending
          exact (answered rfl pending).exists_sent
        · intro first _ pending
          obtain ⟨response, sent⟩ := first msg rfl ⟨noChallenge, isResult, ok⟩ pending
          exact coherent.answered response sent
      · have first : command.RespondsFirst (.message (some msg)) := by
          intro other same isSuccess
          obtain rfl := Option.some.inj (Label.message.inj same)
          exact absurd isSuccess success
        rw [and_iff_left first, Command.message]
        split
        next => exact soundSuccess_challenge _
        next noChallenge =>
          split
          next isResult =>
            rw [soundSuccess_finish_iff]
            apply and_iff_right
            intro resolves
            have ok : Value.isTrue (msg.property (py "ok")) = true :=
              Settlement.resolved.inj resolves
            exact absurd ⟨Bool.eq_false_of_not_eq_true noChallenge, isResult, ok⟩ success
          next => exact Iff.rfl

theorem Coherent.soundSuccess_step_iff
    (coherent : command.Coherent library action laptopPublicKeyPem) (label : Label) :
    SoundSuccess library action laptopPublicKeyPem
        (command.step library action laptopPublicKeyPem label).history ↔
      SoundSuccess library action laptopPublicKeyPem command.history ∧
        command.RespondsFirst label := by
  cases label with
  | message msg => exact coherent.soundSuccess_message_iff msg
  | prompt index privateKeyPem millis =>
      have first : command.RespondsFirst (.prompt index privateKeyPem millis) :=
        fun _ same => by contradiction
      rw [and_iff_left first, Command.step]
      split
      · exact Iff.rfl
      · exact soundSuccess_prompt _ _ _
  | error =>
      have first : command.RespondsFirst .error := fun _ same => by contradiction
      rw [and_iff_left first]
      exact soundSuccess_rejected _
  | timeout =>
      have first : command.RespondsFirst .timeout := fun _ same => by contradiction
      rw [and_iff_left first]
      exact soundSuccess_rejected _

end Command

open Command

/-- The promise settles at most once, and its success is sound exactly if no success of the
laptop is taken up before a response has gone out. -/
theorem settlesOnce_and_sound_iff (library : Jsrsasign) (action : Action)
    (stored : Option PyStr) (labels : List Label) :
    SettlesOnce (runCommand library action stored labels) ∧
      ((∀ key, truthy stored = some key →
          SoundSuccess library action key (runCommand library action stored labels)) ↔
        ∀ key, truthy stored = some key →
          Along (step library action key) RespondsFirst start labels) := by
  cases isStored : truthy stored with
  | none =>
      simp only [runCommand, isStored]
      exact ⟨List.countP_le_length, by simp⟩
  | some key =>
      simp only [runCommand, isStored, Option.some.injEq, forall_eq']
      have kept : Coherent library action key (run (step library action key) start labels) :=
        run_invariant (fun _ label coherent => coherent.step label) coherent_start labels
      refine ⟨kept.settlesOnce, ?_⟩
      have general :
          SoundSuccess library action key (run (step library action key) start labels).history ↔
            SoundSuccess library action key start.history ∧
              Along (step library action key) RespondsFirst start labels :=
        @run_iff_along _ _ (step library action key) (Coherent library action key)
          (fun command => SoundSuccess library action key command.history) RespondsFirst
          (fun _ label coherent => coherent.step label)
          (fun _ label coherent => coherent.soundSuccess_step_iff label) start coherent_start labels
      rw [general]
      exact and_iff_right trivial

/-- A laptop that claims to have unlocked itself. -/
def unasked : Value :=
  .object [(py "type", .string (py "result")), (py "ok", .bool true)]

/-- Nothing verifies. -/
def refusing : Jsrsasign := ⟨fun _ _ => none, fun _ _ _ => some false⟩

/-- The first message of the other side is taken for a success. -/
theorem not_soundSuccess_unasked :
    runCommand refusing .unlock (some (py "key")) [.message (some unasked)] =
        [.settled (.resolved true)] ∧
      ¬ SoundSuccess refusing .unlock (py "key")
        (runCommand refusing .unlock (some (py "key")) [.message (some unasked)]) := by
  have events : runCommand refusing .unlock (some (py "key")) [.message (some unasked)] =
      [.settled (.resolved true)] := rfl
  refine ⟨events, ?_⟩
  rw [events]
  rintro ⟨answered, _⟩
  obtain ⟨response, sent⟩ := (answered rfl).exists_sent
  contradiction

end Runs

end RemoteUnlock.MobileApp
