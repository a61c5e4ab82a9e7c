import RemoteUnlock.Client.Agreement
import RemoteUnlock.Common.Save
import RemoteUnlock.Listener.Handshake

/-!
# An honest unlock completes

A run of the client and a session of the listener talk over a connection that delivers what
is sent in order, while others go on at the laptop.  As long as these keep out of the way and
the surroundings do their part (`Fair`), neither end is ever stuck or turned down: each step
of either end goes forward (`Course.advances`), and the last one leaves the client with `True`
and the laptop with a grant (`unlock_completes`).
-/

namespace RemoteUnlock.Client

open Python Python.Items Common Library

/-! ## What the client sends -/

/-- `{"type": "hello", "device_id": device_id}` -/
def helloMessage (deviceId : PyStr) : Dict :=
  [(py "type", .str (py "hello")), (py "device_id", .str deviceId)]

/-- `{"type": "response", "nonce": nonce, "signature": signature}` -/
def responseMessage (nonce : PyStr) (signature : Text) : Dict :=
  [(py "type", .str (py "response")), (py "nonce", .str nonce),
    (py "signature", .str (ofText signature))]

/-- `json.loads(raw)` -/
def loads (raw : Text) : Except PyExc Json :=
  match Json.loads raw with
  | some value => .ok value
  | none => .error .jsonDecodeError

theorem loads_dumps {value : Json} (settled : Settled value) :
    Json.loads (Json.dumps value) = some value := by
  rw [Json.dumps, Json.loads_print]
  exact congrArg some settled

theorem settled_plain {text : PyStr} (plain : Plain text) : Settled (.str text) := by
  rw [Settled, reloaded_str, joinPairs_of_plain plain]

theorem settled_helloMessage {deviceId : PyStr} (valid : idMatches deviceId = true) :
    Settled (.obj (helloMessage deviceId)) := by
  apply settled_obj
  · simp [PlainKeys, helloMessage]
  · change [py "type", py "device_id"].Nodup
    decide
  · simp only [helloMessage, List.forall_mem_cons]
    exact ⟨settled_text _, settled_plain (plain_of_idMatches valid), by simp⟩

theorem settled_responseMessage {nonce : PyStr} (valid : nonceMatches nonce = true)
    (signature : Text) : Settled (.obj (responseMessage nonce signature)) := by
  apply settled_obj
  · simp [PlainKeys, responseMessage]
  · change [py "type", py "nonce", py "signature"].Nodup
    decide
  · simp only [responseMessage, List.forall_mem_cons]
    exact ⟨settled_text _, settled_plain (plain_of_nonceMatches valid), settled_text _, by simp⟩

theorem settled_challengeMessage {nonce targetId : PyStr} (isNonce : nonceMatches nonce = true)
    (isTarget : idMatches targetId = true) (issuedMs : ℤ) (signature : Text) :
    Settled (.obj (Listener.challengeMessage nonce issuedMs (.str targetId) signature)) := by
  apply settled_obj
  · simp [PlainKeys, Listener.challengeMessage]
  · change [py "type", py "nonce", py "issued_ms", py "target_id", py "server_sig"].Nodup
    decide
  · simp only [Listener.challengeMessage, List.forall_mem_cons]
    exact ⟨settled_text _, settled_plain (plain_of_nonceMatches isNonce), rfl,
      settled_plain (plain_of_idMatches isTarget), settled_text _, by simp⟩

theorem settled_resultMessage (ok : Bool) : Settled (Listener.resultMessage ok) := by
  apply settled_obj
  · simp [PlainKeys]
  · change [py "type", py "ok"].Nodup
    decide
  · simp only [List.forall_mem_cons]
    exact ⟨settled_text _, settled_bool ok, by simp⟩

theorem readResult_resultMessage (ok : Bool) :
    readResult (Listener.resultMessage ok) = .ok ok := by
  cases ok <;> decide

/-! ## The connection -/

variable {Key : Type} {platform : Listener.Platform Key}

/-- A client, the session it talks to, and the address it comes from. -/
structure Ends (Key : Type) where
  session : ℕ
  peer : Listener.Peer
  arguments : Arguments Key

/-- The listener and the run of the client, with what has been sent and not been received. -/
structure Connection (platform : Listener.Platform Key) where
  world : Listener.World platform
  client : Option (Run Key)
  toLaptop : List Text
  toClient : List Text

/-- A step of one of the ends, or something aside at the laptop. -/
inductive Move where
  | aside (label : Listener.Label)
  | connected (access : FileAccess) (answers : Listener.Answers)
  | laptopReceived (answers : Listener.Answers)
  | laptopSent (answers : Listener.Answers)
  | clientStarted
  | clientReceived (signature : Text)
  | clientSent

/-- Whether a run waits for a message. -/
def Place.waits : Place → Bool
  | .challenge => true
  | .result => true
  | _ => false

/-- What a session sends where it waits, as text. -/
def sends (place : Listener.Place) : List Text := (place.sends.map Json.dumps).toList

/-- What a run sends where it waits. -/
def Run.sends (signature : Text) (run : Run Key) : List Text :=
  match run.place, run.answered with
  | .sending, some made => [Json.dumps (.obj (responseMessage made.nonce signature))]
  | _, _ => []

namespace Connection

/-- The connection before either end has begun. -/
def new (world : Listener.World platform) : Connection platform := ⟨world, none, [], []⟩

/-- Where the session waits. -/
def place (connection : Connection platform) (session : ℕ) : Option Listener.Place :=
  (connection.world.sessions session).map Listener.Session.place

/-- The session takes a step; where it then waits to send, it has sent. -/
def perform (connection : Connection platform) (session : ℕ) (label : Listener.Label) :
    Connection platform :=
  { connection with
    world := Listener.step connection.world label
    toClient := connection.toClient ++
      ((Connection.place { connection with world := Listener.step connection.world label }
        session).map sends).getD [] }

/-- Whether a step of the ends can be taken. -/
def enabled (ends : Ends Key) (connection : Connection platform) : Move → Bool
  | .aside _ => true
  | .connected _ _ => (connection.place ends.session).isNone
  | .laptopReceived _ =>
      !connection.toLaptop.isEmpty && match connection.place ends.session with
        | some (.recvHello _ _) => true
        | some (.recvResponse _ _) => true
        | _ => false
  | .laptopSent _ =>
      match connection.place ends.session with
      | some place => place.sends.isSome
      | none => false
  | .clientStarted => connection.client.isNone
  | .clientReceived _ =>
      !connection.toClient.isEmpty && match connection.client with
        | some run => run.place.waits
        | none => false
  | .clientSent =>
      match connection.client with
      | some ⟨_, .sending, _⟩ => true
      | _ => false

/-- One step; what cannot happen leaves everything as it is. -/
def step (int : Json → Except PyExc ℤ) (ends : Ends Key) (connection : Connection platform)
    (move : Move) : Connection platform :=
  if connection.enabled ends move then
    match move with
    | .aside label => { connection with world := Listener.step connection.world label }
    | .connected access answers =>
        connection.perform ends.session (.connect ends.session ends.peer access answers)
    | .laptopReceived answers =>
        Connection.perform { connection with toLaptop := connection.toLaptop.tail } ends.session
          (.resume ends.session (.text (connection.toLaptop.headD [])) answers)
    | .laptopSent answers =>
        connection.perform ends.session (.resume ends.session (.finished none) answers)
    | .clientStarted =>
        { connection with
          client := some (.start ends.arguments)
          toLaptop := connection.toLaptop ++
            [Json.dumps (.obj (helloMessage ends.arguments.deviceId))] }
    | .clientReceived signature =>
        match connection.client.map fun run =>
            run.received platform.crypto int (loads (connection.toClient.headD [])) with
        | some next =>
            { connection with
              client := some next
              toClient := connection.toClient.tail
              toLaptop := connection.toLaptop ++ next.sends signature }
        | none => connection
    | .clientSent =>
        { connection with client := connection.client.map fun run => run.sent none }
  else connection

end Connection

/-! ## What is asked of the surroundings -/

/-- The keys the session of a client is counted under. -/
def Ends.keys (ends : Ends Key) : Listener.LockKind → PyStr → Bool
  | .ip, key => key == ends.peer.ip
  | .device, key => key == ends.arguments.deviceId

section Surroundings

variable (int : Json → Except PyExc ℤ) (ends : Ends Key) (identity : Listener.Identity)
  (ttl : Json)

/-- The device of the client is registered with the laptop, and `int` keeps integers. -/
structure Registered (platform : Listener.Platform Key) : Prop extends
    Listener.Enrolled platform ends.peer identity ends.arguments.targetId ends.arguments.deviceKey
      ttl where
  named : ends.arguments.deviceId = identity.deviceId
  reads : ∀ number, int (.int number) = .ok number

/-- The connection is below the cap and not locked out, and the configuration it loads is the
one the device is registered in. -/
structure Admits (world : Listener.World platform) (access : FileAccess) : Prop where
  below : (Listener.item world.service.data "max_connections").map
    (Json.atLeast world.service.active) = .ok (some false)
  reloaded : ∃ config, reloadIfChanged access world.service.config = (.ok (), config) ∧
    config.config.data = identity.data
  unlocked : ∀ kind key, ends.keys kind key = true → world.service.left kind key = 0

/-- There is room for a challenge, and the laptop draws a nonce and signs with the key that is
pinned by the client. -/
structure Challenges (world : Listener.World platform) (answers : Listener.Answers) : Prop where
  room : ∃ kept, Listener.Room world.service kept
  isNonce : nonceMatches answers.nonce = true
  signs : ∃ signature, answers.signature = .ok signature ∧ ∀ message,
    signedMessage (py "challenge") answers.nonce answers.issuedMs ends.arguments.deviceId
        ends.arguments.targetId = .ok message →
      verifySig platform.crypto ends.arguments.laptopPub message
        (some (.str (ofText signature))) = true

/-- The challenge has not expired, and the success can be recorded. -/
structure InTime (world : Listener.World platform) (nonce : PyStr) (answers : Listener.Answers) :
    Prop where
  young : ∀ entry, .challenge nonce entry ∈ world.service.history →
    Json.exceeds (world.service.time - entry.issued) ttl = some false
  calm : (answers.disk world.service.audit.log.seq).1.raises = false

/-- The session has not had its result yet. -/
def midway : Option Listener.Place → Bool
  | some (.recvHello _ _) => true
  | some (.sendChallenge _ _) => true
  | some (.recvResponse _ _) => true
  | _ => false

/-- The surroundings do their part in a move. -/
def Fair (connection : Connection platform) : Move → Prop
  | .aside label => label.session ≠ some ends.session ∧
      (midway (connection.place ends.session) = true → connection.world.Aside ends.keys ttl label)
  | .connected access _ => Admits ends identity connection.world access
  | .laptopReceived answers =>
      match connection.place ends.session with
      | some (.recvHello _ _) => Challenges ends connection.world answers
      | some (.recvResponse _ _) => ∀ run made, connection.client = some run →
          run.answered = some made → InTime ttl connection.world made.nonce answers
      | _ => True
  | .clientReceived signature => ∀ run made, connection.client = some run →
      run.place = .challenge →
      (run.received platform.crypto int (loads (connection.toClient.headD []))).answered =
          some made →
        verifySig platform.crypto ends.arguments.deviceKey made.response
          (some (.str (ofText signature))) = true
  | _ => True

end Surroundings

/-! ## The stages of the session -/

section Stages

variable {int : Json → Except PyExc ℤ} {ends : Ends Key} {identity : Listener.Identity}
  {ttl : Json} {world : Listener.World platform} {answers : Listener.Answers}

/-- A challenge that the client will accept. -/
structure Offer (crypto : Crypto Key) (arguments : Arguments Key) where
  nonce : PyStr
  entry : Listener.Pending
  signature : Text
  challenge : Bytes
  own : entry.deviceId = arguments.deviceId
  built : signedMessage (py "challenge") nonce entry.issuedMs arguments.deviceId
    arguments.targetId = .ok challenge
  verified : verifySig crypto arguments.laptopPub challenge (some (.str (ofText signature))) = true

def Offer.message {crypto : Crypto Key} {arguments : Arguments Key}
    (offer : Offer crypto arguments) : Json :=
  .obj (Listener.challengeMessage offer.nonce offer.entry.issuedMs (.str arguments.targetId)
    offer.signature)

/-- The session waits somewhere. -/
def Stands (ends : Ends Key) (world : Listener.World platform) (place : Listener.Place) : Prop :=
  world.view ends.keys ends.session = some (ends.peer, place)

/-- The session waits for the hello of a device that may be unlocked with. -/
structure Greeted (ends : Ends Key) (identity : Listener.Identity)
    (world : Listener.World platform) (deadline : Option ℚ) : Prop where
  stands : Stands ends world (.recvHello identity.toAdmission deadline)
  data : world.service.data = identity.data
  unlocked : ∀ kind key, ends.keys kind key = true → world.service.left kind key = 0

/-- The session has made a challenge, which is pending until it expires. -/
structure Offering (ends : Ends Key) (identity : Listener.Identity) (ttl : Json)
    (world : Listener.World platform) (offer : Offer platform.crypto ends.arguments)
    (place : Listener.Place) : Prop where
  stands : Stands ends world place
  data : world.service.data = identity.data
  held : Listener.Held ends.keys ttl offer.nonce offer.entry world.service
  opened : .challenge offer.nonce offer.entry ∈ world.service.history

/-- The session has issued a grant for the device. -/
structure Granted (ends : Ends Key) (identity : Listener.Identity)
    (world : Listener.World platform) (nonce : PyStr) (place : Listener.Place) : Prop where
  stands : Stands ends world place
  issued : ∃ grant, .grant ends.session grant ∈ world.service.history ∧ grant.peer = ends.peer ∧
    grant.identity = identity ∧ grant.nonce = nonce

theorem keys_ip (ends : Ends Key) : ends.keys .ip ends.peer.ip = true := beq_self_eq_true _

theorem keys_device (ends : Ends Key) : ends.keys .device ends.arguments.deviceId = true :=
  beq_self_eq_true _

theorem stands_iff {place : Listener.Place} :
    Stands ends world place ↔ ∃ current, world.sessions ends.session = some current ∧
      current.peer = ends.peer ∧ current.place = place := by
  rw [Stands, Listener.World.view_eq_some_iff]
  constructor
  · rintro ⟨current, found, _, same⟩
    rw [Prod.mk.injEq] at same
    exact ⟨current, found, same⟩
  · rintro ⟨current, found, samePeer, samePlace⟩
    exact ⟨current, found, samePeer ▸ keys_ip ends, by rw [samePeer, samePlace]⟩

theorem stands_setSession {current : Listener.Session platform} (own : current.peer = ends.peer) :
    Stands ends (world.setSession ends.session current) current.place := by
  refine stands_iff.mpr ⟨current, ?_, own, rfl⟩
  rw [Listener.World.sessions_setSession, if_pos rfl]

theorem Greeted.leftAlone {after : Listener.World platform} {deadline : Option ℚ}
    (greeted : Greeted ends identity world deadline)
    (still : Listener.LeftAlone ends.keys ttl world after) :
    Greeted ends identity after deadline where
  stands := (still.views ends.session).trans greeted.stands
  data := still.data.trans greeted.data
  unlocked kind key own := still.unlocked kind key own (greeted.unlocked kind key own)

theorem Offering.leftAlone {after : Listener.World platform} {place : Listener.Place}
    {offer : Offer platform.crypto ends.arguments}
    (offering : Offering ends identity ttl world offer place)
    (still : Listener.LeftAlone ends.keys ttl world after) :
    Offering ends identity ttl after offer place where
  stands := (still.views ends.session).trans offering.stands
  data := still.data.trans offering.data
  held := still.held _ _ offering.held
  opened := still.history.subset offering.opened

theorem Granted.later {nonce : PyStr} {place : Listener.Place} {label : Listener.Label}
    (granted : Granted ends identity world nonce place)
    (other : label.session ≠ some ends.session) :
    Granted ends identity (Listener.step world label) nonce place := by
  obtain ⟨current, found, samePeer, samePlace⟩ := stands_iff.mp granted.stands
  obtain ⟨grant, issued, isGrant⟩ := granted.issued
  have moved := Listener.step_cases world label
  refine ⟨stands_iff.mpr ⟨current, ?_, samePeer, samePlace⟩, grant, ?_, isGrant⟩
  · rw [(moved.others other).1]
    exact found
  · exact moved.history.subset issued

/-- A connection that may be made is made. -/
theorem greeted_of_connect (registered : Registered int ends identity ttl platform)
    {access : FileAccess} (fresh : world.sessions ends.session = none)
    (admits : Admits ends identity world access) (answers : Listener.Answers) :
    ∃ deadline, Greeted ends identity
      (Listener.step world (.connect ends.session ends.peer access answers)) deadline := by
  obtain ⟨config, reloaded, isData⟩ := admits.reloaded
  have admitted := @Listener.connect_admits Key platform answers ends.peer identity world.service
    access config registered.traced.vouched admits.below reloaded isData
    (admits.unlocked .ip _ (keys_ip ends))
  obtain ⟨service, next, known, ran, stepped⟩ :=
    Listener.step_connect fresh ends.peer access answers
  rw [admitted, Prod.mk.injEq] at ran
  obtain ⟨rfl, rfl⟩ := ran
  rw [stepped]
  exact ⟨_, stands_setSession rfl, isData, admits.unlocked⟩

/-- The session takes the step its code takes. -/
theorem resume_stands {place next : Listener.Place} {awaited : Listener.Awaited}
    {service : Listener.UnlockService} (stands : Stands ends world place)
    (allowed : Listener.possible world.service.time place awaited = true)
    (ran : Listener.resume platform answers ends.session ends.peer place awaited world.service =
      some (service, next)) :
    Stands ends (Listener.step world (.resume ends.session awaited answers)) next ∧
      (Listener.step world (.resume ends.session awaited answers)).service = service := by
  obtain ⟨current, found, samePeer, rfl⟩ := stands_iff.mp stands
  rw [← samePeer] at ran
  obtain ⟨known, account, stepped⟩ := Listener.step_resume_of_ran found allowed ran
  rw [stepped]
  exact ⟨stands_setSession samePeer, rfl⟩

/-- The hello of the client is answered with an offer. -/
theorem offering_of_hello (registered : Registered int ends identity ttl platform)
    {deadline : Option ℚ} (greeted : Greeted ends identity world deadline)
    (challenges : Challenges ends world answers) :
    ∃ offer, Offering ends identity ttl
      (Listener.step world (.resume ends.session
        (.text (Json.dumps (.obj (helloMessage ends.arguments.deviceId)))) answers)) offer
      (.sendChallenge identity offer.message) := by
  obtain ⟨kept, room⟩ := challenges.room
  obtain ⟨signature, signs, verifies⟩ := challenges.signs
  have named := registered.named
  have valid : idMatches ends.arguments.deviceId = true := named ▸ registered.deviceMatches
  obtain ⟨message, built, ran⟩ := Listener.hello_challenged registered.toEnrolled ends.session
    deadline (loads_dumps (settled_helloMessage valid)) rfl (named ▸ rfl) greeted.data
    (greeted.unlocked .device _ (named ▸ keys_device ends)) room challenges.isNonce signs
  rw [← named] at built
  obtain ⟨stands, service⟩ := resume_stands greeted.stands rfl ran
  refine ⟨⟨answers.nonce, ⟨identity.deviceId, world.service.time, answers.issuedMs⟩, signature,
    message, named.symm, built, verifies message built⟩, stands, ?_, ?_, ?_⟩
  · rw [service]
    exact greeted.data
  · rw [service]
    exact fun _ => PyDict.get_set_self _ _ _
  · rw [service]
    exact List.mem_append_left _ (List.mem_append_right _ (List.mem_singleton_self _))

/-- The offer is sent. -/
theorem offering_of_sent (registered : Registered int ends identity ttl platform)
    {offer : Offer platform.crypto ends.arguments}
    (offering : Offering ends identity ttl world offer (.sendChallenge identity offer.message))
    (answers : Listener.Answers) :
    ∃ deadline, Offering ends identity ttl
      (Listener.step world (.resume ends.session (.finished none) answers)) offer
      (.recvResponse identity deadline) := by
  obtain ⟨deadline, ran⟩ := @Listener.challenge_sent Key platform answers ends.peer identity
    world.service _ _ ttl registered.toEnrolled ends.session offer.message offering.data
  obtain ⟨stands, service⟩ := resume_stands offering.stands rfl ran
  refine ⟨deadline, stands, ?_, ?_, ?_⟩
  · rw [service]
    exact offering.data
  · rw [service]
    exact offering.held
  · rw [service]
    exact offering.opened

/-- The response of the client is granted. -/
theorem granted_of_response (registered : Registered int ends identity ttl platform)
    {offer : Offer platform.crypto ends.arguments} {deadline : Option ℚ} {message : Bytes}
    {signature : Text}
    (offering : Offering ends identity ttl world offer (.recvResponse identity deadline))
    (inTime : InTime ttl world offer.nonce answers)
    (built : signedMessage (py "response") offer.nonce offer.entry.issuedMs
      ends.arguments.deviceId ends.arguments.targetId = .ok message)
    (verified : verifySig platform.crypto ends.arguments.deviceKey message
      (some (.str (ofText signature))) = true) :
    Granted ends identity
      (Listener.step world (.resume ends.session
        (.text (Json.dumps (.obj (responseMessage offer.nonce signature)))) answers)) offer.nonce
      .sendResult := by
  have named := registered.named
  obtain ⟨_, isNonce, _⟩ := signedMessage_checked built
  have young := inTime.young offer.entry offering.opened
  have live : Listener.Live ends.keys ttl world.service.time offer.entry :=
    ⟨offer.own ▸ keys_device ends, young⟩
  obtain ⟨after, ran, _, issued⟩ := Listener.response_granted registered.toEnrolled ends.session
    deadline (loads_dumps (settled_responseMessage isNonce signature)) rfl rfl offering.data
    (offering.held live) (offer.own.trans named) young (named ▸ built) verified inTime.calm
  obtain ⟨stands, service⟩ := resume_stands offering.stands rfl ran
  exact ⟨stands, _, service ▸ issued, rfl, rfl, rfl⟩

/-- The result is sent. -/
theorem granted_of_sent {nonce : PyStr} (granted : Granted ends identity world nonce .sendResult)
    (answers : Listener.Answers) :
    Granted ends identity (Listener.step world (.resume ends.session (.finished none) answers))
      nonce .done := by
  obtain ⟨grant, issued, isGrant⟩ := granted.issued
  obtain ⟨stands, service⟩ := resume_stands granted.stands rfl
    (Listener.result_sent ends.session : Listener.resume platform answers ends.session ends.peer _ _
      world.service = _)
  exact ⟨stands, grant, service ▸ issued, isGrant⟩

/-- A message of a time that is an integer. -/
theorem messageOf_int (reads : ∀ number, int (.int number) = .ok number) {role nonce : PyStr}
    {issuedMs : ℤ} {deviceId targetId : PyStr} {message : Bytes}
    (built : signedMessage role nonce issuedMs deviceId targetId = .ok message) :
    messageOf int role (.str nonce) (.int issuedMs) deviceId targetId = .ok (nonce, message) := by
  have same : signedMessageOf int role nonce (.int issuedMs) deviceId targetId = .ok message := by
    rw [signedMessageOf_converted (reads issuedMs)]
    exact built
  simp only [messageOf, same]
  rfl

/-- An offer is answered by the client. -/
theorem Offer.answered (offer : Offer platform.crypto ends.arguments)
    (reads : ∀ number, int (.int number) = .ok number) :
    ∃ message, signedMessage (py "response") offer.nonce offer.entry.issuedMs
        ends.arguments.deviceId ends.arguments.targetId = .ok message ∧
      answer platform.crypto int ends.arguments offer.message =
        .ok ⟨offer.nonce, .int offer.entry.issuedMs, some (.str (ofText offer.signature)),
          offer.challenge, message⟩ := by
  obtain ⟨_, isNonce, isDevice, isTarget⟩ := signedMessage_checked offer.built
  obtain ⟨message, built⟩ := (@signedMessage_isOk_iff (py "response") offer.nonce
    offer.entry.issuedMs ends.arguments.deviceId ends.arguments.targetId).mpr
      ⟨.inr rfl, isNonce, isDevice, isTarget⟩
  refine ⟨message, built, ?_⟩
  have nonce : item (py "nonce") (Listener.challengeMessage offer.nonce offer.entry.issuedMs
      (.str ends.arguments.targetId) offer.signature) = .ok (.str offer.nonce) := rfl
  have issuedMs : item (py "issued_ms") (Listener.challengeMessage offer.nonce
      offer.entry.issuedMs (.str ends.arguments.targetId) offer.signature) =
        .ok (.int offer.entry.issuedMs) := rfl
  have serverSig : lookup (py "server_sig") (Listener.challengeMessage offer.nonce
      offer.entry.issuedMs (.str ends.arguments.targetId) offer.signature) =
        some (.str (ofText offer.signature)) := rfl
  simp only [answer, Offer.message]
  rw [if_neg (by rintro (other | other) <;> exact other rfl)]
  simp only [nonce, issuedMs, serverSig, messageOf_int reads offer.built, messageOf_int reads built,
    offer.verified, bind, Except.bind, if_true]

end Stages

/-! ## The course of the conversation -/

/-- How far a session has come. -/
def sessionRank : Option Listener.Place → ℕ
  | some (.recvHello _ _) => 1
  | some (.sendChallenge _ _) => 2
  | some (.recvResponse _ _) => 3
  | some .sendResult => 4
  | some .done => 5
  | _ => 0

/-- How far a run has come. -/
def clientRank : Option Place → ℕ
  | some .challenge => 1
  | some .sending => 2
  | some .result => 3
  | some (.done _) => 4
  | none => 0

def Connection.rank (session : ℕ) (connection : Connection platform) : ℕ :=
  sessionRank (connection.place session) + clientRank (connection.client.map Run.place)

section Course

variable {int : Json → Except PyExc ℤ} {ends : Ends Key} {identity : Listener.Identity}
  {ttl : Json} {connection : Connection platform}

/-- A run has answered an offer. -/
structure Answered (offer : Offer platform.crypto ends.arguments) (run : Run Key)
    (made : Answer) : Prop where
  arguments : run.arguments = ends.arguments
  answered : run.answered = some made
  nonce : made.nonce = offer.nonce
  response : signedMessage (py "response") offer.nonce offer.entry.issuedMs
    ends.arguments.deviceId ends.arguments.targetId = .ok made.response

/-- The conversation goes as it should. -/
inductive Course (ends : Ends Key) (identity : Listener.Identity) (ttl : Json)
    (connection : Connection platform) : Prop where
  /-- The hello has not been received. -/
  | before
      (laptop : connection.place ends.session = none ∨
        ∃ deadline, Greeted ends identity connection.world deadline)
      (client : connection.client = none ∧ connection.toLaptop = [] ∨
        connection.client = some (.start ends.arguments) ∧
          connection.toLaptop = [Json.dumps (.obj (helloMessage ends.arguments.deviceId))])
      (nothing : connection.toClient = []) : Course ends identity ttl connection
  /-- The client has not got the offer, or it has answered it. -/
  | offered (offer : Offer platform.crypto ends.arguments) (place : Listener.Place)
      (laptop : Offering ends identity ttl connection.world offer place)
      (isPlace : place = .sendChallenge identity offer.message ∨
        ∃ deadline, place = .recvResponse identity deadline)
      (client : connection.client = some (.start ends.arguments) ∧ connection.toLaptop = [] ∧
          connection.toClient = [Json.dumps offer.message] ∨
        ∃ run made signature, connection.client = some run ∧ Answered offer run made ∧
          (run.place = .sending ∨ run.place = .result) ∧
          verifySig platform.crypto ends.arguments.deviceKey made.response
            (some (.str (ofText signature))) = true ∧
          connection.toLaptop = [Json.dumps (.obj (responseMessage made.nonce signature))] ∧
          connection.toClient = []) : Course ends identity ttl connection
  /-- The client has not got the result, or it is done. -/
  | granted (offer : Offer platform.crypto ends.arguments) (place : Listener.Place)
      (laptop : Granted ends identity connection.world offer.nonce place)
      (isPlace : place = .sendResult ∨ place = .done) (run : Run Key) (made : Answer)
      (isClient : connection.client = some run) (answered : Answered offer run made)
      (nothing : connection.toLaptop = [])
      (client : (run.place = .sending ∨ run.place = .result) ∧
          connection.toClient = [Json.dumps (Listener.resultMessage true)] ∨
        run.place = .done (.ok true) ∧ connection.toClient = []) :
      Course ends identity ttl connection

/-- A step goes forward. -/
def Advances (ends : Ends Key) (identity : Listener.Identity) (ttl : Json)
    (before after : Connection platform) : Prop :=
  Course ends identity ttl after ∧ after.rank ends.session = before.rank ends.session + 1

theorem place_of_stands {place : Listener.Place} (stands : Stands ends connection.world place) :
    connection.place ends.session = some place := by
  obtain ⟨current, found, _, rfl⟩ := stands_iff.mp stands
  rw [Connection.place, found]
  rfl

theorem perform_eq {world : Listener.World platform} {label : Listener.Label}
    {place : Listener.Place} (stands : Stands ends (Listener.step world label) place)
    (client : Option (Run Key)) (toLaptop toClient : List Text) :
    Connection.perform ⟨world, client, toLaptop, toClient⟩ ends.session label =
      ⟨Listener.step world label, client, toLaptop, toClient ++ sends place⟩ := by
  have isPlace : Connection.place
      (⟨Listener.step world label, client, toLaptop, toClient⟩ : Connection platform)
      ends.session = some place := place_of_stands stands
  rw [Connection.perform, isPlace]
  rfl

theorem loads_of_settled {value : Json} (settled : Settled value) :
    loads (Json.dumps value) = .ok value := by
  rw [loads, loads_dumps settled]

/-- A run that gets an offer answers it. -/
theorem received_offer (offer : Offer platform.crypto ends.arguments)
    (reads : ∀ number, int (.int number) = .ok number) :
    ∃ made, (Run.start ends.arguments).received platform.crypto int
        (loads (Json.dumps offer.message)) = ⟨ends.arguments, .sending, some made⟩ ∧
      Answered offer ⟨ends.arguments, .sending, some made⟩ made := by
  obtain ⟨_, isNonce, _, isTarget⟩ := signedMessage_checked offer.built
  obtain ⟨message, built, isAnswer⟩ := offer.answered reads
  have loaded : loads (Json.dumps offer.message) = .ok offer.message :=
    loads_of_settled (settled_challengeMessage isNonce isTarget _ _)
  refine ⟨⟨offer.nonce, .int offer.entry.issuedMs, some (.str (ofText offer.signature)),
    offer.challenge, message⟩, ?_, rfl, rfl, rfl, built⟩
  simp only [Run.received, Run.start, loaded, Except.bind, isAnswer]

/-- A run that gets the result is done. -/
theorem received_result {run : Run Key} (waits : run.place = .result) (ok : Bool) :
    run.received platform.crypto int (loads (Json.dumps (Listener.resultMessage ok))) =
      { run with place := .done (.ok ok) } := by
  have loaded : loads (Json.dumps (Listener.resultMessage ok)) = .ok (Listener.resultMessage ok) :=
    loads_of_settled (settled_resultMessage ok)
  simp only [Run.received, waits, loaded, Except.bind, readResult_resultMessage]

theorem Answered.moved {offer : Offer platform.crypto ends.arguments} {run : Run Key}
    {made : Answer} (answered : Answered offer run made) (place : Place) :
    Answered offer { run with place := place } made :=
  ⟨answered.arguments, answered.answered, answered.nonce, answered.response⟩

theorem sending_of_enabled {run : Run Key} (isClient : connection.client = some run)
    (enabled : connection.enabled ends .clientSent = true) : run.place = .sending := by
  obtain ⟨arguments, place, answered⟩ := run
  cases place with
  | sending => rfl
  | _ => simp [Connection.enabled, isClient] at enabled

theorem waits_of_enabled {run : Run Key} {signature : Text}
    (isClient : connection.client = some run)
    (enabled : connection.enabled ends (.clientReceived signature) = true) :
    run.place.waits = true := by
  simp only [Connection.enabled, isClient, Bool.and_eq_true] at enabled
  exact enabled.2

theorem Course.clientStarted (course : Course ends identity ttl connection)
    (absent : connection.client = none) :
    Advances ends identity ttl connection
      { connection with
        client := some (.start ends.arguments)
        toLaptop := connection.toLaptop ++
          [Json.dumps (.obj (helloMessage ends.arguments.deviceId))] } := by
  cases course with
  | before laptop client nothing =>
      rcases client with ⟨_, empty⟩ | ⟨started, _⟩
      · refine ⟨.before laptop (.inr ⟨rfl, ?_⟩) nothing, ?_⟩
        · rw [empty]
          rfl
        · rw [Connection.rank, Connection.rank, absent]
          rfl
      · rw [absent] at started
        contradiction
  | offered offer place laptop isPlace client =>
      rcases client with ⟨started, _⟩ | ⟨run, made, signature, isClient, _⟩
      · rw [absent] at started
        contradiction
      · rw [absent] at isClient
        contradiction
  | granted offer place laptop isPlace run made isClient answered nothing client =>
      rw [absent] at isClient
      contradiction

/-- A run that has sent its response waits for the result. -/
theorem rank_sent {run : Run Key} (isClient : connection.client = some run)
    (sending : run.place = .sending) :
    Connection.rank ends.session
        { connection with client := some { run with place := .result } } =
      connection.rank ends.session + 1 := by
  rw [Connection.rank, Connection.rank, isClient, Option.map_some, Option.map_some, sending]
  rfl

theorem Course.clientSent (course : Course ends identity ttl connection)
    (enabled : connection.enabled ends .clientSent = true) :
    Advances ends identity ttl connection
      { connection with client := connection.client.map fun run => run.sent none } := by
  have isSent : ∀ {run : Run Key}, run.place = .sending →
      run.sent none = { run with place := .result } := by
    intro run sending
    simp only [Run.sent, sending]
  cases course with
  | before laptop client nothing =>
      rcases client with ⟨absent, _⟩ | ⟨started, _⟩
      · simp only [Connection.enabled, absent, Bool.false_eq_true] at enabled
      · have sending := sending_of_enabled started enabled
        contradiction
  | offered offer place laptop isPlace client =>
      rcases client with ⟨started, _⟩ | ⟨run, made, signature, isClient, answered, working,
        verified, response, nothing⟩
      · have sending := sending_of_enabled started enabled
        contradiction
      · have sending := sending_of_enabled isClient enabled
        rw [isClient, Option.map_some, isSent sending]
        have sent : Answered offer { run with place := .result } made := answered.moved .result
        exact ⟨.offered offer place laptop isPlace (.inr ⟨_, made, signature, rfl, sent, .inr rfl,
          verified, response, nothing⟩), rank_sent isClient sending⟩
  | granted offer place laptop isPlace run made isClient answered nothing client =>
      have sending := sending_of_enabled isClient enabled
      rw [isClient, Option.map_some, isSent sending]
      refine ⟨.granted offer place laptop isPlace _ made rfl (answered.moved .result) nothing
        (.inl ⟨.inr rfl, ?_⟩), rank_sent isClient sending⟩
      rcases client with ⟨_, result⟩ | ⟨isDone, _⟩
      · exact result
      · rw [sending] at isDone
        contradiction

/-- What goes on aside changes nothing about how far the ends have come. -/
theorem rank_aside {label : Listener.Label} (other : label.session ≠ some ends.session) :
    Connection.rank ends.session
        { connection with world := Listener.step connection.world label } =
      connection.rank ends.session := by
  have same := ((Listener.step_cases connection.world label).others other).1
  rw [Connection.rank, Connection.rank, Connection.place, Connection.place, same]

variable (registered : Registered int ends identity ttl platform)
include registered

theorem Course.aside (course : Course ends identity ttl connection) {label : Listener.Label}
    (fair : Fair int ends identity ttl connection (.aside label)) :
    Course ends identity ttl
      { connection with world := Listener.step connection.world label } := by
  obtain ⟨other, aside⟩ := fair
  have still : ∀ {place}, Stands ends connection.world place → midway (some place) = true →
      Listener.LeftAlone ends.keys ttl connection.world (Listener.step connection.world label) := by
    intro place stands isMidway
    refine Listener.step_aside registered.limit (aside ?_)
    rw [place_of_stands stands]
    exact isMidway
  cases course with
  | before laptop client nothing =>
      refine .before ?_ client nothing
      rcases laptop with absent | ⟨deadline, greeted⟩
      · left
        rw [Connection.place, Option.map_eq_none_iff] at absent ⊢
        exact ((Listener.step_cases connection.world label).others other).1.trans absent
      · exact .inr ⟨deadline, greeted.leftAlone (still greeted.stands rfl)⟩
  | offered offer place laptop isPlace client =>
      refine .offered offer place (laptop.leftAlone (still laptop.stands ?_)) isPlace client
      rcases isPlace with rfl | ⟨deadline, rfl⟩ <;> rfl
  | granted offer place laptop isPlace run made isClient answered nothing client =>
      exact .granted offer place (laptop.later other) isPlace run made isClient answered nothing
        client

theorem Course.connected (course : Course ends identity ttl connection)
    {access : FileAccess} {answers : Listener.Answers}
    (absent : connection.place ends.session = none)
    (admits : Admits ends identity connection.world access) :
    Advances ends identity ttl connection
      (connection.perform ends.session (.connect ends.session ends.peer access answers)) := by
  cases course with
  | before laptop client nothing =>
      have fresh : connection.world.sessions ends.session = none := by
        rwa [Connection.place, Option.map_eq_none_iff] at absent
      obtain ⟨deadline, greeted⟩ := greeted_of_connect registered fresh admits answers
      rw [perform_eq greeted.stands]
      refine ⟨.before (.inr ⟨deadline, greeted⟩) client ?_, ?_⟩
      · rw [nothing]
        rfl
      · rw [Connection.rank, Connection.rank, absent, place_of_stands greeted.stands]
        simp only [sessionRank]
        omega
  | offered offer place laptop isPlace client =>
      rw [place_of_stands laptop.stands] at absent
      contradiction
  | granted offer place laptop isPlace run made isClient answered nothing client =>
      rw [place_of_stands laptop.stands] at absent
      contradiction

theorem Course.laptopReceived (course : Course ends identity ttl connection)
    {answers : Listener.Answers}
    (enabled : connection.enabled ends (.laptopReceived answers) = true)
    (fair : Fair int ends identity ttl connection (.laptopReceived answers)) :
    Advances ends identity ttl connection
      (Connection.perform { connection with toLaptop := connection.toLaptop.tail } ends.session
        (.resume ends.session (.text (connection.toLaptop.headD [])) answers)) := by
  simp only [Connection.enabled, Bool.and_eq_true, Bool.not_eq_true'] at enabled
  obtain ⟨waiting, listens⟩ := enabled
  cases course with
  | before laptop client nothing =>
      rcases laptop with absent | ⟨deadline, greeted⟩
      · rw [absent] at listens
        contradiction
      have isPlace := place_of_stands greeted.stands
      rcases client with ⟨_, empty⟩ | ⟨started, hello⟩
      · rw [empty] at waiting
        contradiction
      simp only [Fair, isPlace] at fair
      obtain ⟨offer, offering⟩ := offering_of_hello registered greeted fair
      rw [hello, List.headD_cons, List.tail_cons, perform_eq offering.stands]
      refine ⟨.offered offer _ offering (.inl rfl) (.inl ⟨started, rfl, ?_⟩), ?_⟩
      · rw [nothing]
        rfl
      · rw [Connection.rank, Connection.rank, isPlace, place_of_stands offering.stands]
        simp only [sessionRank]
        omega
  | offered offer place laptop isPlace client =>
      have stands := place_of_stands laptop.stands
      rcases isPlace with rfl | ⟨deadline, rfl⟩
      · rw [stands] at listens
        contradiction
      rcases client with ⟨_, empty, _⟩ | ⟨run, made, signature, isClient, answered, working,
        verified, response, nothing⟩
      · rw [empty] at waiting
        contradiction
      simp only [Fair, stands] at fair
      have inTime := fair run made isClient answered.answered
      rw [answered.nonce] at inTime response
      have granted := granted_of_response registered laptop inTime answered.response verified
      rw [response, List.headD_cons, List.tail_cons, perform_eq granted.stands]
      refine ⟨.granted offer _ granted (.inl rfl) run made isClient answered rfl
        (.inl ⟨working, ?_⟩), ?_⟩
      · rw [nothing]
        rfl
      · rw [Connection.rank, Connection.rank, stands, place_of_stands granted.stands]
        simp only [sessionRank]
        omega
  | granted offer place laptop isPlace run made isClient answered nothing client =>
      rw [nothing] at waiting
      contradiction

theorem Course.laptopSent (course : Course ends identity ttl connection)
    {answers : Listener.Answers}
    (enabled : connection.enabled ends (.laptopSent answers) = true) :
    Advances ends identity ttl connection
      (connection.perform ends.session (.resume ends.session (.finished none) answers)) := by
  cases course with
  | before laptop client nothing =>
      rcases laptop with absent | ⟨deadline, greeted⟩
      · simp only [Connection.enabled, absent, Bool.false_eq_true] at enabled
      · simp only [Connection.enabled, place_of_stands greeted.stands] at enabled
        contradiction
  | offered offer place laptop isPlace client =>
      have stands := place_of_stands laptop.stands
      rcases isPlace with rfl | ⟨deadline, rfl⟩
      · obtain ⟨deadline, offering⟩ := offering_of_sent registered laptop answers
        rw [perform_eq offering.stands]
        refine ⟨.offered offer _ offering (.inr ⟨deadline, rfl⟩) ?_, ?_⟩
        · simpa only [sends, Listener.Place.sends, Option.map_none, Option.toList_none,
            List.append_nil] using client
        · rw [Connection.rank, Connection.rank, stands, place_of_stands offering.stands]
          simp only [sessionRank]
          omega
      · simp only [Connection.enabled, stands] at enabled
        contradiction
  | granted offer place laptop isPlace run made isClient answered nothing client =>
      have stands := place_of_stands laptop.stands
      rcases isPlace with rfl | rfl
      · have granted := granted_of_sent laptop answers
        rw [perform_eq granted.stands]
        refine ⟨.granted offer _ granted (.inr rfl) run made isClient answered nothing ?_, ?_⟩
        · simpa only [sends, Listener.Place.sends, Option.map_none, Option.toList_none,
            List.append_nil] using client
        · rw [Connection.rank, Connection.rank, stands, place_of_stands granted.stands]
          simp only [sessionRank]
          omega
      · simp only [Connection.enabled, stands] at enabled
        contradiction

theorem Course.clientReceived (course : Course ends identity ttl connection) {signature : Text}
    (enabled : connection.enabled ends (.clientReceived signature) = true)
    (fair : Fair int ends identity ttl connection (.clientReceived signature)) :
    Advances ends identity ttl connection
      (connection.step int ends (.clientReceived signature)) := by
  have waiting : connection.toClient ≠ [] := by
    simp only [Connection.enabled, Bool.and_eq_true, Bool.not_eq_true', List.isEmpty_eq_false_iff]
      at enabled
    exact enabled.1
  rw [Connection.step, if_pos enabled]
  cases course with
  | before laptop client nothing => exact absurd nothing waiting
  | offered offer place laptop isPlace client =>
      rcases client with ⟨started, empty, sent⟩ | ⟨run, made, other, isClient, answered, working,
        verified, response, nothing⟩
      · obtain ⟨made, received, answered⟩ := received_offer offer registered.reads
        have verified := fair _ made started rfl (by rw [sent, List.headD_cons, received])
        simp only [started, Option.map_some, sent, List.headD_cons, List.tail_cons, received]
        refine ⟨.offered offer place laptop isPlace (.inr ⟨_, made, signature, rfl, answered,
          .inl rfl, verified, ?_, rfl⟩), ?_⟩
        · rw [empty]
          rfl
        · rw [Connection.rank, Connection.rank, started]
          rfl
      · exact absurd nothing waiting
  | granted offer place laptop isPlace run made isClient answered nothing client =>
      rcases client with ⟨working, result⟩ | ⟨_, empty⟩
      · have waits := waits_of_enabled isClient enabled
        rcases working with sending | isResult
        · rw [sending] at waits
          contradiction
        have received : run.received platform.crypto int _ = _ := received_result isResult true
        simp only [isClient, Option.map_some, result, List.headD_cons, List.tail_cons, received]
        refine ⟨.granted offer place laptop isPlace _ made rfl (answered.moved _) ?_
          (.inr ⟨rfl, rfl⟩), ?_⟩
        · rw [nothing]
          rfl
        · rw [Connection.rank, Connection.rank, isClient, Option.map_some, Option.map_some,
            isResult]
          rfl
      · exact absurd empty waiting

/-- Each step of one of the ends goes forward. -/
theorem Course.advances (course : Course ends identity ttl connection) {move : Move}
    (own : ∀ label, move ≠ .aside label) (enabled : connection.enabled ends move = true)
    (fair : Fair int ends identity ttl connection move) :
    Advances ends identity ttl connection (connection.step int ends move) := by
  cases move with
  | aside label => exact (own label rfl).elim
  | connected access answers =>
      rw [Connection.step, if_pos enabled]
      exact course.connected registered (Option.isNone_iff_eq_none.mp enabled) fair
  | laptopReceived answers =>
      rw [Connection.step, if_pos enabled]
      exact course.laptopReceived registered enabled fair
  | laptopSent answers =>
      rw [Connection.step, if_pos enabled]
      exact course.laptopSent registered enabled
  | clientStarted =>
      rw [Connection.step, if_pos enabled]
      exact course.clientStarted (Option.isNone_iff_eq_none.mp enabled)
  | clientReceived signature => exact course.clientReceived registered enabled fair
  | clientSent =>
      rw [Connection.step, if_pos enabled]
      exact course.clientSent enabled

theorem Course.step (course : Course ends identity ttl connection) {move : Move}
    (fair : Fair int ends identity ttl connection move) :
    Course ends identity ttl (connection.step int ends move) := by
  by_cases enabled : connection.enabled ends move = true
  · by_cases own : ∀ label, move ≠ .aside label
    · exact (course.advances registered own enabled fair).1
    · push Not at own
      obtain ⟨label, rfl⟩ := own
      rw [Connection.step, if_pos enabled]
      exact course.aside registered fair
  · unfold Connection.step
    rw [if_neg enabled]
    exact course

end Course

/-! ## How far the ends come -/

/-- A step of one of the ends. -/
def Move.own : Move → Bool
  | .aside _ => false
  | _ => true

/-- The steps the ends take in a run. -/
def taken (int : Json → Except PyExc ℤ) (ends : Ends Key) (connection : Connection platform)
    (moves : List Move) : List Move :=
  observed (Connection.step int ends)
    (fun connection move => if move.own && connection.enabled ends move then some move else none)
    connection moves

/-- None of the ends can take a step. -/
def Connection.Stuck (ends : Ends Key) (connection : Connection platform) : Prop :=
  ∀ move : Move, move.own = true → connection.enabled ends move = false

/-- Both ends are done, the client with `True`. -/
structure Done (ends : Ends Key) (connection : Connection platform) : Prop where
  client : ∃ run, connection.client = some run ∧ run.place = .done (.ok true)
  laptop : connection.place ends.session = some .done

section Completes

variable {int : Json → Except PyExc ℤ} {ends : Ends Key} {identity : Listener.Identity}
  {ttl : Json} {connection : Connection platform}

theorem rank_run (registered : Registered int ends identity ttl platform)
    (course : Course ends identity ttl connection) {moves : List Move}
    (fair : Along (Connection.step int ends) (Fair int ends identity ttl) connection moves) :
    (run (Connection.step int ends) connection moves).rank ends.session =
      connection.rank ends.session + (taken int ends connection moves).length := by
  have keeps : ∀ (connection : Connection platform) (move : Move),
      Course ends identity ttl connection → Fair int ends identity ttl connection move →
        Course ends identity ttl (connection.step int ends move) :=
    fun _ _ course fair => course.step registered fair
  apply measure_run keeps ?_ ?_ course fair
  · intro connection move course fair isSeen
    have able : (move.own && connection.enabled ends move) = true := by
      by_contra unable
      rw [if_neg unable] at isSeen
      contradiction
    rw [Bool.and_eq_true] at able
    refine (course.advances registered ?_ able.2 fair).2
    rintro label rfl
    exact Bool.false_ne_true able.1
  · intro connection move course fair hidden
    have unable : ¬ (move.own && connection.enabled ends move) = true := by
      intro able
      rw [if_pos able] at hidden
      contradiction
    unfold Connection.step
    split
    next enabled =>
      cases move with
      | aside label => exact rank_aside fair.1
      | _ => simp [Move.own, enabled] at unable
    · rfl

/-- The ends have nine steps to take, and are done behind the last. -/
theorem Course.rank_le (course : Course ends identity ttl connection) :
    connection.rank ends.session ≤ 9 ∧
      (connection.rank ends.session = 9 → Done ends connection) := by
  cases course with
  | before laptop client nothing =>
      have early : connection.rank ends.session ≤ 2 := by
        have fromLaptop : sessionRank (connection.place ends.session) ≤ 1 := by
          rcases laptop with absent | ⟨deadline, greeted⟩
          · rw [absent]
            exact Nat.zero_le _
          · rw [place_of_stands greeted.stands]
            exact le_refl _
        have fromClient : clientRank (connection.client.map Run.place) ≤ 1 := by
          rcases client with ⟨absent, _⟩ | ⟨started, _⟩
          · rw [absent]
            exact Nat.zero_le _
          · rw [started]
            exact le_refl _
        exact Nat.add_le_add fromLaptop fromClient
      exact ⟨by omega, by omega⟩
  | offered offer place laptop isPlace client =>
      have early : connection.rank ends.session ≤ 6 := by
        have fromLaptop : sessionRank (connection.place ends.session) ≤ 3 := by
          rw [place_of_stands laptop.stands]
          rcases isPlace with rfl | ⟨deadline, rfl⟩ <;> simp [sessionRank]
        have fromClient : clientRank (connection.client.map Run.place) ≤ 3 := by
          rcases client with ⟨started, _⟩ | ⟨run, made, signature, isClient, answered, working, _⟩
          · rw [started]
            simp [Run.start, clientRank]
          · rw [isClient, Option.map_some]
            rcases working with sending | isResult
            · simp [sending, clientRank]
            · simp [isResult, clientRank]
        exact Nat.add_le_add fromLaptop fromClient
      exact ⟨by omega, by omega⟩
  | granted offer place laptop isPlace run made isClient answered nothing client =>
      have stands := place_of_stands laptop.stands
      rw [Connection.rank, isClient, stands, Option.map_some]
      rcases client with ⟨sending | isResult, _⟩ | ⟨isDone, _⟩
      · rw [sending]
        rcases isPlace with rfl | rfl <;> simp [sessionRank, clientRank]
      · rw [isResult]
        rcases isPlace with rfl | rfl <;> simp [sessionRank, clientRank]
      · rw [isDone]
        rcases isPlace with rfl | rfl
        · simp [sessionRank, clientRank]
        · exact ⟨le_refl _, fun _ => ⟨⟨run, isClient, isDone⟩, stands⟩⟩

/-- As long as they are not done one of the ends can take a step. -/
theorem Course.not_stuck (course : Course ends identity ttl connection)
    (early : connection.rank ends.session < 9) : ¬ connection.Stuck ends := by
  intro stuck
  have unconnected := stuck (.connected .calm Listener.calmAnswers) rfl
  have unreceived := stuck (.laptopReceived Listener.calmAnswers) rfl
  have unsent := stuck (.laptopSent Listener.calmAnswers) rfl
  have unstarted := stuck .clientStarted rfl
  have clientUnreceived := stuck (.clientReceived []) rfl
  have clientUnsent := stuck .clientSent rfl
  simp only [Connection.enabled] at unconnected unreceived unsent unstarted
  simp only [Connection.enabled] at clientUnreceived clientUnsent
  cases course with
  | before laptop client nothing =>
      rcases laptop with absent | ⟨deadline, greeted⟩
      · simp [absent] at unconnected
      · rcases client with ⟨absent, _⟩ | ⟨started, hello⟩
        · simp [absent] at unstarted
        · simp [hello, place_of_stands greeted.stands] at unreceived
  | offered offer place laptop isPlace client =>
      have stands := place_of_stands laptop.stands
      rcases isPlace with rfl | ⟨deadline, rfl⟩
      · simp [stands, Listener.Place.sends] at unsent
      · rcases client with ⟨started, _, sent⟩ | ⟨run, made, signature, _, _, _, _, response, _⟩
        · simp [started, sent, Run.start, Place.waits] at clientUnreceived
        · simp [response, stands] at unreceived
  | granted offer place laptop isPlace run made isClient answered nothing client =>
      have stands := place_of_stands laptop.stands
      rcases isPlace with rfl | rfl
      · simp [stands, Listener.Place.sends] at unsent
      · obtain ⟨arguments, place, answer⟩ := run
        rcases client with ⟨sending | isResult, sent⟩ | ⟨isDone, _⟩
        · obtain rfl : place = .sending := sending
          simp [isClient] at clientUnsent
        · obtain rfl : place = .result := isResult
          simp [isClient, sent, Place.waits] at clientUnreceived
        · obtain rfl : place = .done (.ok true) := isDone
          rw [Connection.rank, isClient, stands] at early
          simp [sessionRank, clientRank] at early

/-- A client that is done has returned `True`, for a grant of the session. -/
theorem Course.outcome (course : Course ends identity ttl connection) {run : Run Key}
    {outcome : Except PyExc Bool} (isClient : connection.client = some run)
    (isDone : run.place = .done outcome) :
    outcome = .ok true ∧ ∃ made grant, run.answered = some made ∧
      .grant ends.session grant ∈ connection.world.service.history ∧ grant.peer = ends.peer ∧
      grant.identity = identity ∧ grant.nonce = made.nonce := by
  cases course with
  | before laptop client nothing =>
      rcases client with ⟨absent, _⟩ | ⟨started, _⟩
      · rw [absent] at isClient
        contradiction
      · rw [started, Option.some.injEq] at isClient
        subst isClient
        contradiction
  | offered offer place laptop isPlace client =>
      rcases client with ⟨started, _⟩ | ⟨other, made, signature, found, _, working, _⟩
      · rw [started, Option.some.injEq] at isClient
        subst isClient
        contradiction
      · rw [found, Option.some.injEq] at isClient
        subst isClient
        rw [isDone] at working
        rcases working with wrong | wrong <;> contradiction
  | granted offer place laptop isPlace other made found answered nothing client =>
      rw [found, Option.some.injEq] at isClient
      subst isClient
      obtain ⟨grant, issued, peer, isIdentity, nonce⟩ := laptop.issued
      rcases client with ⟨working, _⟩ | ⟨isTrue, _⟩
      · rw [isDone] at working
        rcases working with wrong | wrong <;> contradiction
      · rw [isDone, Place.done.injEq] at isTrue
        exact ⟨isTrue, made, grant, answered.answered, issued, peer, isIdentity,
          nonce.trans answered.nonce.symm⟩

/-- What comes of a run of the two ends from a world in which the session has not begun. -/
structure Completes (int : Json → Except PyExc ℤ) (ends : Ends Key)
    (identity : Listener.Identity) (world : Listener.World platform) (moves : List Move) :
    Prop where
  /-- The ends never take more than nine steps, and behind the ninth both are done. -/
  bounded : (taken int ends (.new world) moves).length ≤ 9
  done : (taken int ends (.new world) moves).length = 9 →
    Done ends (run (Connection.step int ends) (.new world) moves)
  /-- Before that one of them can take a step. -/
  able : (taken int ends (.new world) moves).length < 9 →
    ¬ (run (Connection.step int ends) (.new world) moves).Stuck ends
  /-- The client ends with `True` or not at all, and then the session has issued a grant. -/
  outcome : ∀ client outcome,
    (run (Connection.step int ends) (.new world) moves).client = some client →
      client.place = .done outcome → outcome = .ok true ∧
        ∃ made grant, client.answered = some made ∧
          .grant ends.session grant ∈
            (run (Connection.step int ends) (.new world) moves).world.service.history ∧
          grant.peer = ends.peer ∧ grant.identity = identity ∧ grant.nonce = made.nonce

/-- However the others go on, a client whose device is registered unlocks. -/
theorem unlock_completes (registered : Registered int ends identity ttl platform)
    {world : Listener.World platform} (fresh : world.sessions ends.session = none)
    {moves : List Move}
    (fair : Along (Connection.step int ends) (Fair int ends identity ttl) (.new world) moves) :
    Completes int ends identity world moves := by
  have absent : (Connection.new world).place ends.session = none := by
    rw [Connection.place, Connection.new, fresh]
    rfl
  have start : Course ends identity ttl (Connection.new world) :=
    .before (.inl absent) (.inl ⟨rfl, rfl⟩) rfl
  have keeps : ∀ (connection : Connection platform) (move : Move),
      Course ends identity ttl connection → Fair int ends identity ttl connection move →
        Course ends identity ttl (connection.step int ends move) :=
    fun _ _ course fair => course.step registered fair
  have course := run_invariant_along keeps start fair
  have rank : (run (Connection.step int ends) (.new world) moves).rank ends.session =
      (taken int ends (.new world) moves).length := by
    rw [rank_run registered start fair, Connection.rank, absent, Nat.add_eq_right]
    rfl
  obtain ⟨bounded, done⟩ := course.rank_le
  exact ⟨rank ▸ bounded, fun all => done (rank.trans all), fun fewer =>
    course.not_stuck (rank ▸ fewer), fun _ _ isClient isDone => course.outcome isClient isDone⟩

end Completes

/-! ## A phone that unlocks -/

/-- What can be seen of a move in which the surroundings do their part; nobody else is there. -/
def seemsFair (int : Json → Except PyExc ℤ) (ends : Ends Key) (identity : Listener.Identity)
    (ttl : Json) (connection : Connection platform) : Move → Bool
  | .aside (.tick _) => true
  | .aside _ => false
  | .connected access _ =>
      (match (Listener.item connection.world.service.data "max_connections").map
          (Json.atLeast connection.world.service.active) with
        | .ok (some false) => true
        | _ => false) &&
      (match reloadIfChanged access connection.world.service.config with
        | (.ok _, config) => decide (config.config.data = identity.data)
        | _ => false) &&
      decide (connection.world.service.left .ip ends.peer.ip = 0) &&
        decide (connection.world.service.left .device ends.arguments.deviceId = 0)
  | .laptopReceived answers =>
      match connection.place ends.session with
      | some (.recvHello _ _) => nonceMatches answers.nonce &&
          (match Listener.item connection.world.service.data "challenge_ttl" with
            | .ok limit =>
                match Listener.prunePending connection.world.service.time limit
                    connection.world.service.pending with
                | .ok kept => decide (kept.items.length < Listener.maxPending)
                | .error _ => false
            | .error _ => false) &&
          (match answers.signature, signedMessage (py "challenge") answers.nonce answers.issuedMs
              ends.arguments.deviceId ends.arguments.targetId with
            | .ok signature, .ok message => verifySig platform.crypto ends.arguments.laptopPub
                message (some (.str (ofText signature)))
            | _, _ => false)
      | some (.recvResponse _ _) =>
          !(answers.disk connection.world.service.audit.log.seq).1.raises &&
            connection.world.service.history.all fun event =>
              match event with
              | .challenge _ entry => Json.exceeds
                  (connection.world.service.time - entry.issued) ttl == some false
              | _ => true
      | _ => true
  | .clientReceived signature =>
      match connection.client with
      | some run =>
          match run.place, (run.received platform.crypto int
              (loads (connection.toClient.headD []))).answered with
          | .challenge, some made => verifySig platform.crypto ends.arguments.deviceKey
              made.response (some (.str (ofText signature)))
          | _, _ => true
      | none => true
  | _ => true

theorem fair_of_seems {int : Json → Except PyExc ℤ} {ends : Ends Key}
    {identity : Listener.Identity} {ttl : Json} {connection : Connection platform} {move : Move}
    (seems : seemsFair int ends identity ttl connection move = true) :
    Fair int ends identity ttl connection move := by
  cases move with
  | aside label =>
      cases label with
      | tick duration => exact ⟨by simp [Listener.Label.session], fun _ => trivial⟩
      | _ => simp [seemsFair] at seems
  | connected access answers =>
      simp only [seemsFair, Bool.and_eq_true, decide_eq_true_eq] at seems
      obtain ⟨⟨⟨below, reloads⟩, ip⟩, device⟩ := seems
      refine ⟨?_, ?_, ?_⟩
      · split at below
        · assumption
        · contradiction
      · split at reloads
        next config reloaded => exact ⟨config, reloaded, of_decide_eq_true reloads⟩
        · contradiction
      · intro kind key own
        cases kind with
        | ip => exact (eq_of_beq own : key = _) ▸ ip
        | device => exact (eq_of_beq own : key = _) ▸ device
  | laptopReceived answers =>
      simp only [seemsFair] at seems
      simp only [Fair]
      split at seems
      · simp only [Bool.and_eq_true] at seems
        obtain ⟨⟨isNonce, room⟩, signs⟩ := seems
        refine ⟨?_, isNonce, ?_⟩
        · split at room
          next limit timed =>
            split at room
            next kept pruned => exact ⟨kept, limit, timed, pruned, of_decide_eq_true room⟩
            · contradiction
          · contradiction
        · split at signs
          next signature message isSignature built =>
            refine ⟨signature, isSignature, fun other again => ?_⟩
            rw [built, Except.ok.injEq] at again
            exact again ▸ signs
          · contradiction
      · simp only [Bool.and_eq_true, Bool.not_eq_true', List.all_eq_true] at seems
        exact fun run made _ _ => ⟨fun entry opened => eq_of_beq (seems.2 _ opened), seems.1⟩
      · trivial
  | clientReceived signature =>
      intro run made isClient waits answered
      simp only [seemsFair, isClient, waits, answered] at seems
      exact seems
  | _ => trivial

def phoneEnds : Ends Bool := ⟨0, Listener.samplePeer, phoneArguments⟩

/-- What the session finds out about the phone. -/
def phoneIdentity : Listener.Identity where
  certDevice := none
  data := update defaults (Listener.sampleMembers true)
  deviceId := py "phone"
  device := [(py "id", .str (py "phone")), (py "public_key_pem", .str (py "BEGIN")),
    (py "cert_sha256", .str []), (py "enabled", .bool true)]
  lookupData := update defaults (Listener.sampleMembers true)

/-- The steps of the phone and the laptop, with time passing in between. -/
def phoneMoves : List Move :=
  [.clientStarted, .connected .calm Listener.calmAnswers, .aside (.tick (1 : ℚ).toNNRat),
    .laptopReceived Listener.calmAnswers, .clientReceived "01".toList,
    .aside (.tick (2 : ℚ).toNNRat), .laptopSent Listener.calmAnswers,
    .laptopReceived Listener.calmAnswers, .clientSent, .clientReceived [],
    .laptopSent Listener.calmAnswers]

theorem registered_phone :
    Registered readInt phoneEnds phoneIdentity (.int 10) pairedPlatform where
  traced := {
    vouched := {
      certificate := ⟨none, rfl, rfl⟩
      required := ⟨.bool false, by decide +kernel, by simp [Json.truthy]⟩ }
    identifier := rfl
    source := .inr ⟨rfl, by decide +kernel⟩ }
  looked := rfl
  timed := by decide +kernel
  limit := ⟨by simp, fun age => by simp [Json.exceeds, Json.number]⟩
  target := by decide +kernel
  deviceMatches := by decide
  targetMatches := by decide
  loads := ⟨.str (py "BEGIN"), by decide +kernel, by decide +kernel⟩
  named := rfl
  reads _ := rfl

theorem fair_phoneMoves :
    Along (Connection.step readInt phoneEnds) (Fair readInt phoneEnds phoneIdentity (.int 10))
      (.new (Listener.World.start pairedPlatform Listener.sampleSetup)) phoneMoves := by
  have seems : Along (Connection.step readInt phoneEnds)
      (fun connection move =>
        seemsFair readInt phoneEnds phoneIdentity (.int 10) connection move = true)
      (.new (Listener.World.start pairedPlatform Listener.sampleSetup)) phoneMoves := by
    decide +kernel
  exact seems.imp fun _ _ _ => fair_of_seems

/-- The phone and the laptop complete these steps. -/
theorem unlock_completes_phone :
    Completes readInt phoneEnds phoneIdentity
        (Listener.World.start pairedPlatform Listener.sampleSetup) phoneMoves ∧
      (taken readInt phoneEnds
        (.new (Listener.World.start pairedPlatform Listener.sampleSetup)) phoneMoves).length = 9 :=
  ⟨unlock_completes registered_phone rfl fair_phoneMoves, by decide +kernel⟩

end RemoteUnlock.Client
