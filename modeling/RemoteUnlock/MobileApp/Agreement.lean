import RemoteUnlock.MobileApp.Network
import RemoteUnlock.Windows.Backed

/-!
# The app and the Windows listener agree

Any number of laptops and any number of commands of phones go on side by side; what is
delivered to whom is up to the network.  Laptops sign challenges and phones the actions, so
the first word of a text tells which of them has signed it.  A password that is written or a
machine that is shut down therefore has a command of its own behind it, whose user has
confirmed this very action for a challenge of this very laptop (`effects_approved`).
-/

namespace RemoteUnlock.Windows

open Python Python.Items Common Library

variable {Number : Type} {platform : Platform Number}

/-! ## What a step adds -/

/-- The acceptance is of a response that is received, whose signature verifies. -/
structure Receives (platform : Platform Number) (label : Label) (acceptance : Acceptance Number) :
    Prop where
  label : ∃ members pipe,
    label = .received acceptance.connection (.ok (.obj members)) pipe ∧
      lookup (py "signature") members = some acceptance.signature
  signed : ∃ nonce, acceptance.nonce = .str nonce ∧
    UnlockService.isSigned platform acceptance.action nonce acceptance.timestamp
      acceptance.signature = true

/-- Events without acceptances other than of what is received, and without nonces that are not
drawn at random. -/
structure Added (platform : Platform Number) (label : Label) (events : List (Event Number)) :
    Prop where
  accepted : ∀ acceptance ∈ acceptances events, Receives platform label acceptance
  issued : ∀ issuing ∈ issuings events, ∃ random, issuing.1 = hex random

theorem Calm.added {events : List (Event Number)} (calm : Calm events) (label : Label) :
    Added platform label events where
  accepted acceptance membership := by
    rw [calm.acceptances] at membership
    contradiction
  issued issuing membership := by
    rw [calm.issuings] at membership
    contradiction

theorem Acts.added {connection : ℕ} {action : Action} {events : List (Event Number)}
    (acts : Acts connection action events) (label : Label) : Added platform label events where
  accepted acceptance membership := by
    rw [acts.acceptances] at membership
    contradiction
  issued issuing membership := by
    rw [acts.issuings] at membership
    contradiction

theorem item_eq_ok {key : PyStr} {members : List (PyStr × Json)} {value : Json}
    (found : item key members = .ok value) : lookup key members = some value := by
  unfold item at found
  split at found
  next other same => rw [same, Except.ok.inj found]
  · contradiction

/-- What is taken up as a command is an object with the signature in it. -/
theorem readRequest_signature {message : Except PyExc Json} {nonce : Json} {timestamp : Number}
    {signature : Json} {action : Action}
    (read : message.bind (readRequest platform) =
      .ok (.command nonce timestamp signature action)) :
    ∃ members, message = .ok (.obj members) ∧
      lookup (py "signature") members = some signature := by
  obtain ⟨value, isValue, read⟩ := bind_eq_ok.mp read
  unfold readRequest at read
  split at read
  next members =>
    refine ⟨members, isValue, ?_⟩
    split at read
    · simp at read
    · split at read
      · simp at read
      · split at read
        · simp at read
        · obtain ⟨name, _, read⟩ := bind_eq_ok.mp read
          obtain ⟨time, _, read⟩ := bind_eq_ok.mp read
          obtain ⟨number, _, read⟩ := bind_eq_ok.mp read
          obtain ⟨text, isText, read⟩ := bind_eq_ok.mp read
          rw [Except.ok.injEq, Request.command.injEq] at read
          exact read.2.2.1 ▸ item_eq_ok isText
  · simp at read

/-- What a step adds to the history. -/
theorem step_added (platform : Platform Number) (world : World Number) (label : Label) :
    ∃ events, (world.step platform label).history = world.history ++ events ∧
      Added platform label events := by
  have idle : ∃ events, world.history = world.history ++ events ∧ Added platform label events :=
    ⟨[], (List.append_nil _).symm, calm_nil.added label⟩
  cases label with
  | pass seconds => exact idle
  | connect random pipe =>
      obtain ⟨challenge, made, named, _⟩ :=
        issueChallenge_returns platform world.service world.now random
      refine ⟨[.issued challenge], ?_, fun acceptance membership => ?_, ?_⟩
      · simp only [World.step, made]
        rfl
      · contradiction
      · intro issuing membership
        obtain rfl := List.mem_singleton.mp membership
        exact ⟨random, named⟩
  | greeted connection failure pipe =>
      simp only [World.step]
      split
      · exact ⟨[], rfl, calm_nil.added _⟩
      · exact ⟨_, rfl, (calm_handle _ _ _ _).added _⟩
      · exact idle
  | received connection message pipe =>
      simp only [World.step]
      split
      · split
        · exact ⟨_, rfl, (calm_handle _ _ _ _).added _⟩
        · exact ⟨[], rfl, calm_nil.added _⟩
        next nonce timestamp signature action read =>
          have verified : world.service.verify platform world.now nonce timestamp signature
              (.str action.text) = world.service.verifyAction platform world.now nonce timestamp
                signature action := by
            rw [UnlockService.verify, Action.ofJson_text]
          rw [verified]
          obtain ⟨_, ⟨refused, _⟩ | ⟨agreed, name, _, approval, _⟩⟩ :=
            world.service.verifyAction_cases platform world.now nonce timestamp signature action
          · rw [refused]
            exact ⟨[], rfl, calm_nil.added _⟩
          · rw [agreed]
            refine ⟨_, rfl, fun acceptance membership => ?_, fun issuing membership => ?_⟩
            · obtain rfl := List.mem_singleton.mp membership
              obtain ⟨members, isMessage, isSignature⟩ := readRequest_signature read
              exact ⟨⟨members, pipe, by rw [isMessage], isSignature⟩, name, approval.named,
                approval.signed⟩
            · contradiction
      · exact idle
  | sent connection failure pipe again =>
      simp only [World.step]
      split
      next alerts _ =>
        refine ⟨_, rfl, ?_⟩
        split
        · exact (calm_alerted _).added _
        · exact calm_nil.added _
      next ok action _ =>
        refine ⟨_, rfl, ?_⟩
        cases ok with
        | true => exact (acts_conclude _ _ _ _ _).added _
        | false => exact (calm_conclude _ _ _ _ _).added _
      · exact ⟨_, rfl, (calm_handle _ _ _ _).added _⟩
      · exact ⟨_, rfl, (calm_handle _ _ _ _).added _⟩
      · exact idle

/-- Every acceptance has a nonce. -/
theorem approved_of_mem {world : World Number} (nonces : NoncesSound platform world)
    (places : PlacesSound world) {acceptance : Acceptance Number}
    (accepted : acceptance ∈ acceptances world.history) :
    ∃ nonce, Approved platform world acceptance nonce := by
  obtain ⟨origin, matched, _⟩ := exists_injOn_of_forall₂ nonces.approved
    (List.nodup_reverse.mpr nonces.distinct) places.single
  exact ⟨_, (matched acceptance accepted).1⟩

/-- Every nonce is accepted on one connection. -/
theorem connection_of_approved {world : World Number} (nonces : NoncesSound platform world)
    (places : PlacesSound world) {first second : Acceptance Number} {nonce : PyStr}
    (inFirst : first ∈ acceptances world.history) (inSecond : second ∈ acceptances world.history)
    (firstApproved : Approved platform world first nonce)
    (secondApproved : Approved platform world second nonce) :
    first.connection = second.connection := by
  obtain ⟨origin, matched, injective⟩ := exists_injOn_of_forall₂ nonces.approved
    (List.nodup_reverse.mpr nonces.distinct) places.single
  have originOf {acceptance : Acceptance Number} (accepted : acceptance ∈ acceptances world.history)
      (approved : Approved platform world acceptance nonce) :
      origin acceptance.connection = nonce :=
    Json.str.inj ((matched acceptance accepted).1.named.symm.trans approved.named)
  exact injective (List.mem_map_of_mem inFirst) (List.mem_map_of_mem inSecond)
    ((originOf inFirst firstApproved).trans (originOf inSecond secondApproved).symm)

end RemoteUnlock.Windows

namespace RemoteUnlock.MobileApp

open Python Python.Items Common Library
open Windows (Action)

variable {Number Key : Type}

/-! ## The machine -/

/-- What each laptop is given, what the app signs and verifies with, and whose the keys are. -/
structure Setting (Number Key : Type) where
  platform : ℕ → Windows.Platform Number
  library : Jsrsasign
  /-- The key a laptop signs with. -/
  signingKey : ℕ → Key
  /-- The key whose signatures a laptop accepts. -/
  acceptedKey : ℕ → Key
  privateKey : (privateKeyPem : PyStr) → Key
  publicKey : (publicKeyPem : PyStr) → Key

/-- A run of `runCommand` behind the check that the phone is paired. -/
structure Run where
  action : Action
  laptopPublicKeyPem : PyStr
  command : Command

/-- The laptops and the runs by their numbers. -/
structure Field (Number : Type) where
  laptops : ℕ → Windows.World Number
  runs : ℕ → Option Run

/-- What happens: something at a laptop, or a run is started or goes on. -/
inductive Move where
  | laptop (laptop : ℕ) (label : Windows.Label)
  | start (run : ℕ) (action : Action) (stored : Option PyStr)
  | phone (run : ℕ) (label : Label)

def Run.step (library : Jsrsasign) (current : Run) (label : Label) : Run :=
  { current with
    command := current.command.step library current.action current.laptopPublicKeyPem label }

namespace Field

def start : Field Number := ⟨fun _ => .start, fun _ => none⟩

/-- One step; a run is started once, and not where no key of a laptop is stored. -/
def step (setting : Setting Number Key) (field : Field Number) : Move → Field Number
  | .laptop laptop label =>
      { field with
        laptops := Function.update field.laptops laptop
          ((field.laptops laptop).step (setting.platform laptop) label) }
  | .start run action stored =>
      match field.runs run, truthy stored with
      | none, some key =>
          { field with runs := Function.update field.runs run (some ⟨action, key, .start⟩) }
      | _, _ => field
  | .phone run label =>
      { field with
        runs := Function.update field.runs run
          ((field.runs run).map fun current => current.step setting.library label) }

/-- The events at a laptop. -/
def history (field : Field Number) (laptop : ℕ) : List (Windows.Event Number) :=
  (field.laptops laptop).history

theorem laptops_step_laptop (setting : Setting Number Key) (field : Field Number) (acting : ℕ)
    (label : Windows.Label) (laptop : ℕ) :
    (field.step setting (.laptop acting label)).laptops laptop =
      if laptop = acting then (field.laptops acting).step (setting.platform acting) label
      else field.laptops laptop :=
  Function.update_apply _ _ _ _

theorem runs_step_phone (setting : Setting Number Key) (field : Field Number) (acting : ℕ)
    (label : Label) (run : ℕ) :
    (field.step setting (.phone acting label)).runs run =
      if run = acting then (field.runs acting).map fun current => current.step setting.library label
      else field.runs run :=
  Function.update_apply _ _ _ _

theorem laptops_step_phone (setting : Setting Number Key) (field : Field Number) (acting : ℕ)
    (label : Label) : (field.step setting (.phone acting label)).laptops = field.laptops := rfl

theorem laptops_step_start (setting : Setting Number Key) (field : Field Number) (acting : ℕ)
    (action : Action) (stored : Option PyStr) :
    (field.step setting (.start acting action stored)).laptops = field.laptops := by
  rw [step]
  split <;> rfl

/-- Where a run is started, the others stay. -/
theorem runs_step_start (setting : Setting Number Key) (field : Field Number) (acting : ℕ)
    (action : Action) (stored : Option PyStr) {run : ℕ} {current : Run}
    (found : (field.step setting (.start acting action stored)).runs run = some current) :
    field.runs run = some current ∨ current.command = .start := by
  rw [step] at found
  split at found
  · simp only [Function.update_apply] at found
    split at found
    · exact .inr (by rw [← Option.some.inj found])
    · exact .inl found
  · exact .inl found

end Field

/-! ## Who has signed what -/

section Signatures

variable (setting : Setting Number Key) (honest : Key → Prop)

/-- A laptop or a run has signed a text with a key. -/
inductive Made (field : Field Number) (key : Key) (message : Bytes) : Prop where
  | laptop (laptop : ℕ) (nonce : PyStr) (time : ℚ) (own : setting.signingKey laptop = key)
      (issued : (nonce, time) ∈ Windows.issuings (field.history laptop))
      (signed : Windows.signedText (py "challenge") nonce
        ((setting.platform laptop).clockText time) = .ok message) : Made field key message
  | phone (run : ℕ) (current : Run) (response : Response) (challenge : Challenge)
      (privateKeyPem nonce : PyStr) (later earlier : List Event)
      (found : field.runs run = some current)
      (behind : current.command.history =
        later ++ .sent response :: .prompted challenge (some privateKeyPem) :: earlier)
      (own : setting.privateKey privateKeyPem = key)
      (text : interpolate response.nonce = some nonce)
      (signed : encodeStr (template response.action.text nonce
        (ofText (numberText response.timestamp))) = .ok message) : Made field key message

/-- What is assumed of a step: a signature that is delivered and verifies under a key in trust
was made with it. -/
structure Trusted (field : Field Number) (move : Move) : Prop where
  response : ∀ laptop connection members pipe text sig message,
    move = .laptop laptop (.received connection (.ok (.obj members)) pipe) →
      lookup (py "signature") members = some (.str text) → fromHex text = some sig →
        (setting.platform laptop).verify sig message = true →
          honest (setting.acceptedKey laptop) →
            Made setting field (setting.acceptedKey laptop) message
  challenge : ∀ run current msg text, move = .phone run (.message (some msg)) →
    field.runs run = some current →
      setting.library.verify current.laptopPublicKeyPem text (msg.property (py "signature")) =
          some true →
        honest (setting.publicKey current.laptopPublicKeyPem) →
          ∃ message, encodeStr text = .ok message ∧
            Made setting field (setting.publicKey current.laptopPublicKeyPem) message

/-- A laptop that signs with a key has issued the nonce. -/
def IssuedUnder (field : Field Number) (key : Key) (nonce : PyStr) : Prop :=
  ∃ laptop time, setting.signingKey laptop = key ∧
    (nonce, time) ∈ Windows.issuings (field.history laptop)

/-- The response is for the action of the run and a challenge that it has verified before. -/
structure Consented (library : Jsrsasign) (current : Run) (response : Response)
    (challenge : Challenge) (earlier : List Event) : Prop where
  challenged : .challenged challenge ∈ earlier
  verified : library.verifySignature current.laptopPublicKeyPem challenge (py "challenge") = true
  nonce : response.nonce = challenge.nonce
  action : response.action = current.action

/-- The user of a phone has confirmed what a laptop accepts, for a challenge of the laptop
whose key the phone has stored. -/
def Approves (field : Field Number) (laptop : ℕ) (action : Action) (nonce : PyStr) (run : ℕ)
    (response : Response) : Prop :=
  ∃ current challenge privateKeyPem later earlier,
    field.runs run = some current ∧
    current.command.history =
      later ++ .sent response :: .prompted challenge (some privateKeyPem) :: earlier ∧
    Consented setting.library current response challenge earlier ∧
    setting.privateKey privateKeyPem = setting.acceptedKey laptop ∧
    current.action = action ∧ interpolate challenge.nonce = some nonce ∧
    (honest (setting.publicKey current.laptopPublicKeyPem) →
      IssuedUnder setting field (setting.publicKey current.laptopPublicKeyPem) nonce)

end Signatures

/-! ## Texts -/

def colon : CodePoint := CodePoint.ofChar ':'

/-- The numbers are written without a colon. -/
structure PlainNumbers (platform : Windows.Platform Number) : Prop where
  clock : ∀ time, ':' ∉ platform.clockText time
  float : ∀ value, ':' ∉ platform.floatText value

theorem colon_notMem_ofText {text : Text} (plain : ':' ∉ text) : colon ∉ ofText text := by
  intro membership
  obtain ⟨character, inText, same⟩ := List.mem_map.mp membership
  rw [CodePoint.ofChar_injective same] at inText
  exact plain inText

theorem colon_notMem_hex (random : Bytes) : colon ∉ hex random := by
  apply colon_notMem_ofText
  intro membership
  obtain ⟨byte, _, inByte⟩ := List.mem_flatMap.mp membership
  have isHex := Audit.hexByte_isHex byte ':' inByte
  contradiction

theorem colon_notMem_action (action : Action) : colon ∉ action.text := by
  cases action with
  | unlock => decide
  | shutdown => decide

theorem colon_notMem_challenge : colon ∉ py "challenge" := by decide

theorem encodeStr_injective {first second : PyStr} {message : Bytes}
    (firstMade : encodeStr first = .ok message) (secondMade : encodeStr second = .ok message) :
    first = second := by
  obtain ⟨source, rfl, encoded⟩ := encodeStr_eq_ok_iff.mp firstMade
  obtain ⟨other, rfl, otherEncoded⟩ := encodeStr_eq_ok_iff.mp secondMade
  rw [encode_injective (encoded.symm.trans otherEncoded)]

/-- A text determines the action it begins with, and one without further colons all of its
parts. -/
theorem template_inj {action other nonce otherNonce timestamp otherTimestamp : PyStr}
    (plain : colon ∉ action) (otherPlain : colon ∉ other)
    (same : template action nonce timestamp = template other otherNonce otherTimestamp) :
    action = other ∧
      (colon ∉ otherNonce → colon ∉ otherTimestamp →
        nonce = otherNonce ∧ timestamp = otherTimestamp) := by
  have shape (action nonce timestamp : PyStr) :
      template action nonce timestamp = action ++ colon :: (nonce ++ colon :: timestamp) := by
    simp only [template, List.append_assoc]
    rfl
  rw [shape, shape] at same
  have front {word rest : PyStr} (plain : colon ∉ word) :
      (word ++ colon :: rest).takeWhile (· ≠ colon) = word := by
    have all : ∀ point ∈ word, decide (point ≠ colon) = true := fun point membership =>
      decide_eq_true (ne_of_mem_of_not_mem membership plain)
    rw [List.takeWhile_append_of_pos all, List.takeWhile_cons_of_neg (by simp), List.append_nil]
  have first : action = other := by
    have fronts := congrArg (List.takeWhile (· ≠ colon)) same
    rwa [front plain, front otherPlain] at fronts
  subst first
  refine ⟨rfl, fun noncePlain timestampPlain => ?_⟩
  rw [List.append_cancel_left_eq, List.cons.injEq] at same
  obtain ⟨nonces, _, timestamps⟩ :=
    (List.append_cons_inj_of_notMem noncePlain timestampPlain).mp same.2.symm
  exact ⟨nonces.symm, timestamps.symm⟩

theorem action_text_injective {action other : Action} (same : action.text = other.text) :
    action = other := by
  revert same
  cases action <;> cases other <;> decide

theorem action_text_ne (action : Action) : action.text ≠ py "challenge" := by
  cases action with
  | unlock => decide
  | shutdown => decide

/-! ## What happens in a run -/

section Commands

variable {library : Jsrsasign} {action : Action} {laptopPublicKeyPem : PyStr}

/-- The challenge that a message is taken for. -/
def Value.challenge (msg : Value) : Challenge :=
  ⟨msg.property (py "nonce"), msg.property (py "timestamp"), msg.property (py "signature")⟩

/-- Events in which nothing is challenged other than by the message that comes, and nothing is
sent other than behind one of the prompts. -/
structure AddedBy (action : Action) (command : Command) (label : Label) (events : List Event) :
    Prop where
  challenged : ∀ challenge, .challenged challenge ∈ events →
    ∃ msg, label = .message (some msg) ∧ challenge = msg.challenge
  sent : ∀ response, .sent response ∈ events → ∃ challenge ∈ command.prompts, ∃ privateKeyPem,
    events = [.sent response, .prompted challenge (some privateKeyPem)] ∧
      response.nonce = challenge.nonce ∧ response.action = action

theorem history_finish (command : Command) (settlement : Settlement) :
    ∃ events, (command.finish settlement).history = events ++ command.history ∧
      ∀ event ∈ events, event = .settled settlement := by
  unfold Command.finish
  split
  · exact ⟨[], rfl, fun event membership => by contradiction⟩
  · exact ⟨[.settled settlement], rfl, fun event membership => List.mem_singleton.mp membership⟩

/-- A settlement adds nothing that was asked about. -/
theorem added_finish (command noted : Command) (label : Label) (settlement : Settlement)
    {events : List Event} (history : noted.history = events ++ command.history)
    (silent : ∀ response, .sent response ∉ events)
    (added : AddedBy action command label events) :
    ∃ events, (noted.finish settlement).history = events ++ command.history ∧
      AddedBy action command label events := by
  obtain ⟨more, isMore, settled⟩ := history_finish noted settlement
  refine ⟨more ++ events, by rw [isMore, history, List.append_assoc], ?_, ?_⟩
  · intro challenge membership
    rcases List.mem_append.mp membership with inMore | old
    · exact absurd (settled _ inMore) (by simp)
    · exact added.challenged challenge old
  · intro response membership
    rcases List.mem_append.mp membership with inMore | old
    · exact absurd (settled _ inMore) (by simp)
    · exact absurd old (silent response)

/-- What a step adds to the history, which is the latest first. -/
theorem history_step (library : Jsrsasign) (action : Action) (laptopPublicKeyPem : PyStr)
    (command : Command) (label : Label) :
    ∃ events, (command.step library action laptopPublicKeyPem label).history =
        events ++ command.history ∧ AddedBy action command label events := by
  have nothing : AddedBy action command label [] :=
    ⟨fun _ membership => by contradiction, fun _ membership => by contradiction⟩
  have settles (settlement : Settlement) :
      ∃ events, (command.finish settlement).history = events ++ command.history ∧
        AddedBy action command label events :=
    added_finish command command label settlement rfl (fun _ membership => by contradiction) nothing
  cases label with
  | message msg =>
      rw [Command.step]
      cases msg with
      | none => exact settles _
      | some msg =>
          rw [Command.message]
          split
          · have noted : AddedBy action command (.message (some msg))
                [.challenged msg.challenge] := by
              refine ⟨fun challenge membership => ?_, fun response membership => ?_⟩
              · rw [List.mem_singleton, Event.challenged.injEq] at membership
                exact ⟨msg, rfl, membership⟩
              · simp at membership
            rw [Command.challenge]
            split
            · exact ⟨[.challenged msg.challenge], rfl, noted⟩
            · refine added_finish command _ _ _ ?_ ?_ noted
              · rfl
              · simp
          · split
            · exact settles _
            · exact ⟨[], rfl, nothing⟩
  | prompt index privateKeyPem millis =>
      rw [Command.step]
      split
      · exact ⟨[], rfl, nothing⟩
      next challenge found =>
        have noted (label : Label) :
            AddedBy action command label [.prompted challenge privateKeyPem] :=
          ⟨fun _ membership => by simp at membership, fun _ membership => by simp at membership⟩
        rw [Command.prompt]
        split
        · refine added_finish command _ _ _ ?_ ?_ (noted _)
          · rfl
          · simp
        next key usable =>
          split
          · exact ⟨[.prompted challenge privateKeyPem], rfl, noted _⟩
          next signature _ =>
            rw [Command.send]
            split
            · exact ⟨[.prompted challenge privateKeyPem], rfl, noted _⟩
            · obtain ⟨isKey, _⟩ := Option.filter_eq_some_iff.mp usable
              refine ⟨[.sent ⟨action, challenge.nonce, clock millis, signature⟩,
                .prompted challenge privateKeyPem], rfl, fun other membership => ?_,
                fun response membership => ?_⟩
              · simp at membership
              · have same : response = ⟨action, challenge.nonce, clock millis, signature⟩ := by
                  simpa using membership
                subst same
                exact ⟨challenge, List.mem_of_getElem? found, key, by rw [isKey], rfl, rfl⟩
  | error => exact settles _
  | timeout => exact settles _

end Commands

/-! ## Later fields -/

/-- A run goes on with what it was started with. -/
structure Run.Extends (before after : Run) : Prop where
  action : after.action = before.action
  laptopPublicKeyPem : after.laptopPublicKeyPem = before.laptopPublicKeyPem
  history : ∃ events, after.command.history = events ++ before.command.history

theorem Run.Extends.refl (current : Run) : current.Extends current := ⟨rfl, rfl, [], rfl⟩

/-- What has happened stays. -/
structure Field.Extends (before after : Field Number) : Prop where
  laptops : ∀ laptop, before.history laptop <+: after.history laptop
  runs : ∀ run current, before.runs run = some current →
    ∃ grown, after.runs run = some grown ∧ current.Extends grown

section Later

variable {setting : Setting Number Key} {honest : Key → Prop} {before after : Field Number}

theorem step_extends (setting : Setting Number Key) (field : Field Number) (move : Move) :
    field.Extends (field.step setting move) := by
  have kept (field : Field Number) : ∀ run current, field.runs run = some current →
      ∃ grown, field.runs run = some grown ∧ current.Extends grown :=
    fun run current found => ⟨current, found, .refl current⟩
  cases move with
  | laptop acting label =>
      refine ⟨fun laptop => ?_, kept field⟩
      rw [Field.history, Field.history, Field.laptops_step_laptop]
      split
      next same =>
        subst same
        obtain ⟨events, isEvents, _⟩ :=
          Windows.step_added (setting.platform laptop) (field.laptops laptop) label
        rw [isEvents]
        exact List.prefix_append _ _
      · exact List.prefix_refl _
  | start acting action stored =>
      rw [Field.step]
      split
      next key absent _ =>
        refine ⟨fun _ => List.prefix_refl _, fun run current found => ⟨current, ?_, .refl current⟩⟩
        have different : run ≠ acting := by
          rintro rfl
          rw [absent] at found
          contradiction
        exact (Function.update_of_ne different _ _).trans found
      · exact ⟨fun _ => List.prefix_refl _, kept field⟩
  | phone acting label =>
      refine ⟨fun _ => List.prefix_refl _, fun run current found => ?_⟩
      by_cases same : run = acting
      · subst same
        obtain ⟨events, isEvents, _⟩ := history_step setting.library current.action
          current.laptopPublicKeyPem current.command label
        refine ⟨current.step setting.library label, ?_, rfl, rfl, events, isEvents⟩
        rw [Field.runs_step_phone, if_pos rfl, found]
        rfl
      · refine ⟨current, ?_, .refl current⟩
        rw [Field.runs_step_phone, if_neg same, found]

theorem issuings_mono (later : before.Extends after) (laptop : ℕ) {issuing : PyStr × ℚ}
    (issued : issuing ∈ Windows.issuings (before.history laptop)) :
    issuing ∈ Windows.issuings (after.history laptop) := by
  obtain ⟨events, isEvents⟩ := later.laptops laptop
  rw [← isEvents, Windows.issuings_append]
  exact List.mem_append_left _ issued

theorem IssuedUnder.mono (later : before.Extends after) {key : Key} {nonce : PyStr}
    (issued : IssuedUnder setting before key nonce) : IssuedUnder setting after key nonce := by
  obtain ⟨laptop, time, own, issued⟩ := issued
  exact ⟨laptop, time, own, issuings_mono later laptop issued⟩

theorem Consented.of_extends {current grown : Run} (extends_ : current.Extends grown)
    {response : Response} {challenge : Challenge} {earlier : List Event}
    (consented : Consented setting.library current response challenge earlier) :
    Consented setting.library grown response challenge earlier where
  challenged := consented.challenged
  verified := by
    rw [extends_.laptopPublicKeyPem]
    exact consented.verified
  nonce := consented.nonce
  action := consented.action.trans extends_.action.symm

theorem Approves.mono (later : before.Extends after) {laptop : ℕ} {action : Action}
    {nonce : PyStr} {run : ℕ} {response : Response}
    (approves : Approves setting honest before laptop action nonce run response) :
    Approves setting honest after laptop action nonce run response := by
  obtain ⟨current, challenge, privateKeyPem, front, earlier, found, behind, consented, own,
    isAction, text, issued⟩ := approves
  obtain ⟨grown, isGrown, extends_⟩ := later.runs run current found
  obtain ⟨events, isEvents⟩ := extends_.history
  refine ⟨grown, challenge, privateKeyPem, events ++ front, earlier, isGrown, ?_,
    consented.of_extends extends_, own, extends_.action.trans isAction, text, ?_⟩
  · rw [isEvents, behind, List.append_assoc]
  · rw [extends_.laptopPublicKeyPem]
    exact fun isHonest => (issued isHonest).mono later

end Later

/-! ## The invariant -/

section Invariant

variable (setting : Setting Number Key) (honest : Key → Prop)

/-- Every response of a run has its prompt and its challenge behind it, and what it has verified
under a key in trust has been issued. -/
structure Run.Sound (field : Field Number) (current : Run) : Prop where
  coherent : current.command.Coherent setting.library current.action current.laptopPublicKeyPem
  consented : ∀ later response earlier,
    current.command.history = later ++ .sent response :: earlier →
      ∃ challenge privateKeyPem rest, earlier = .prompted challenge (some privateKeyPem) :: rest ∧
        Consented setting.library current response challenge rest
  backed : ∀ challenge, .challenged challenge ∈ current.command.history →
    setting.library.verifySignature current.laptopPublicKeyPem challenge (py "challenge") = true →
      honest (setting.publicKey current.laptopPublicKeyPem) →
        ∃ nonce, interpolate challenge.nonce = some nonce ∧
          IssuedUnder setting field (setting.publicKey current.laptopPublicKeyPem) nonce

/-- What is accepted under a key in trust has been approved. -/
structure Field.Sound (field : Field Number) : Prop where
  nonces : ∀ laptop, Windows.NoncesSound (setting.platform laptop) (field.laptops laptop)
  places : ∀ laptop, Windows.PlacesSound (field.laptops laptop)
  random : ∀ laptop, ∀ issuing ∈ Windows.issuings (field.history laptop),
    ∃ random, issuing.1 = hex random
  runs : ∀ run current, field.runs run = some current → current.Sound setting honest field
  accepted : ∀ laptop, ∀ acceptance ∈ Windows.acceptances (field.history laptop),
    honest (setting.acceptedKey laptop) → ∃ nonce run response, acceptance.nonce = .str nonce ∧
      Approves setting honest field laptop acceptance.action nonce run response

end Invariant

section Steps

variable {setting : Setting Number Key} {honest : Key → Prop} {field after : Field Number}

theorem Run.Sound.mono {current : Run} (later : field.Extends after)
    (sound : current.Sound setting honest field) : current.Sound setting honest after where
  coherent := sound.coherent
  consented := sound.consented
  backed challenge membership verified isHonest := by
    obtain ⟨nonce, text, issued⟩ := sound.backed challenge membership verified isHonest
    exact ⟨nonce, text, issued.mono later⟩

theorem verifySignature_eq_true {library : Jsrsasign} {publicKeyPem word : PyStr}
    {challenge : Challenge}
    (verified : library.verifySignature publicKeyPem challenge word = true) :
    ∃ nonce timestamp, interpolate challenge.nonce = some nonce ∧
      library.verify publicKeyPem (template word nonce timestamp) challenge.signature =
        some true := by
  unfold Jsrsasign.verifySignature at verified
  cases isNonce : interpolate challenge.nonce with
  | none =>
      rw [isNonce] at verified
      contradiction
  | some nonce =>
      cases isTimestamp : interpolate challenge.timestamp with
      | none =>
          rw [isNonce, isTimestamp] at verified
          contradiction
      | some timestamp =>
          rw [isNonce, isTimestamp, Option.bind_some, Option.bind_some] at verified
          refine ⟨nonce, timestamp, rfl, ?_⟩
          cases answer : library.verify publicKeyPem (template word nonce timestamp)
              challenge.signature with
          | none =>
              rw [answer] at verified
              contradiction
          | some value =>
              rw [answer] at verified
              exact congrArg some verified

/-- A challenge was signed by a laptop. -/
theorem Made.challenge (plain : ∀ laptop, PlainNumbers (setting.platform laptop))
    (sound : field.Sound setting honest) {key : Key} {nonce timestamp : PyStr} {message : Bytes}
    (made : Made setting field key message)
    (signed : encodeStr (template (py "challenge") nonce timestamp) = .ok message) :
    IssuedUnder setting field key nonce := by
  cases made with
  | laptop laptop other time own issued isMessage =>
      obtain ⟨random, isRandom⟩ := sound.random laptop _ issued
      have noncePlain : colon ∉ other := by
        have isHex : other = hex random := isRandom
        rw [isHex]
        exact colon_notMem_hex random
      have same := encodeStr_injective signed isMessage
      obtain ⟨rfl, _⟩ := (template_inj colon_notMem_challenge colon_notMem_challenge same).2
        noncePlain (colon_notMem_ofText ((plain laptop).clock time))
      exact ⟨laptop, time, own, issued⟩
  | phone run current response challenge privateKeyPem other later earlier found behind own text
      isMessage =>
      have same := encodeStr_injective signed isMessage
      have word := (template_inj colon_notMem_challenge (colon_notMem_action _) same).1
      exact absurd word.symm (action_text_ne _)

/-- An action was signed by a run, whose user has confirmed it. -/
theorem Made.approves (sound : field.Sound setting honest) {laptop : ℕ} {action : Action}
    {nonce : PyStr} {timestamp : Text} {message : Bytes}
    (made : Made setting field (setting.acceptedKey laptop) message)
    (noncePlain : colon ∉ nonce) (timestampPlain : ':' ∉ timestamp)
    (signed : Windows.signedText action.text nonce timestamp = .ok message) :
    ∃ run response, Approves setting honest field laptop action nonce run response := by
  cases made with
  | laptop other name time own issued isMessage =>
      have same := encodeStr_injective signed isMessage
      have word := (template_inj (colon_notMem_action _) colon_notMem_challenge same).1
      exact absurd word (action_text_ne _)
  | phone run current response challenge privateKeyPem other later earlier found behind own text
      isMessage =>
      have same := encodeStr_injective isMessage signed
      obtain ⟨word, parts⟩ := template_inj (colon_notMem_action _) (colon_notMem_action _) same
      obtain ⟨rfl, _⟩ := parts noncePlain (colon_notMem_ofText timestampPlain)
      have isSound := sound.runs run current found
      obtain ⟨asked, key, rest, isRest, consented⟩ := isSound.consented later response _ behind
      rw [List.cons.injEq, Event.prompted.injEq, Option.some.injEq] at isRest
      obtain ⟨⟨rfl, rfl⟩, rfl⟩ := isRest
      have actions : current.action = action :=
        consented.action.symm.trans (action_text_injective word)
      refine ⟨run, response, current, challenge, privateKeyPem, later, earlier, found, behind,
        consented, own, actions, consented.nonce ▸ text, fun isHonest => ?_⟩
      have inHistory : .challenged challenge ∈ current.command.history := by
        rw [behind]
        exact List.mem_append_right _
          (List.mem_cons_of_mem _ (List.mem_cons_of_mem _ consented.challenged))
      obtain ⟨name, isName, issued⟩ :=
        isSound.backed challenge inHistory consented.verified isHonest
      rw [← consented.nonce, text, Option.some.injEq] at isName
      rw [isName]
      exact issued

/-- An element is behind the new ones or among them. -/
theorem split_append {α : Type} {events old front earlier : List α} {value : α}
    (same : events ++ old = front ++ value :: earlier) :
    (∃ rest, old = rest ++ value :: earlier) ∨
      ∃ rest, events = front ++ value :: rest ∧ earlier = rest ++ old := by
  rcases List.append_eq_append_iff.mp same with ⟨rest, _, isOld⟩ | ⟨rest, isEvents, isRest⟩
  · exact .inl ⟨rest, isOld⟩
  · cases rest with
    | nil => exact .inl ⟨[], isRest.symm⟩
    | cons first rest =>
        rw [List.cons_append, List.cons.injEq] at isRest
        obtain ⟨rfl, rfl⟩ := isRest
        exact .inr ⟨rest, isEvents, rfl⟩

theorem Run.Sound.step (plain : ∀ laptop, PlainNumbers (setting.platform laptop))
    (sound : field.Sound setting honest) (later : field.Extends after) {run : ℕ} {current : Run}
    {label : Label} (trusted : Trusted setting honest field (.phone run label))
    (found : field.runs run = some current) :
    (current.step setting.library label).Sound setting honest after := by
  have isSound := sound.runs run current found
  obtain ⟨events, isEvents, added⟩ := history_step setting.library current.action
    current.laptopPublicKeyPem current.command label
  have grows : current.Extends (current.step setting.library label) :=
    ⟨rfl, rfl, events, isEvents⟩
  refine ⟨isSound.coherent.step label, ?_, ?_⟩
  · intro front response earlier behind
    rcases split_append (isEvents.symm.trans behind) with ⟨rest, isOld⟩ | ⟨rest, isNew, rfl⟩
    · obtain ⟨challenge, privateKeyPem, before, isEarlier, consented⟩ :=
        isSound.consented rest response earlier isOld
      exact ⟨challenge, privateKeyPem, before, isEarlier, consented.of_extends grows⟩
    · have membership : .sent response ∈ events := by
        rw [isNew]
        exact List.mem_append_right _ List.mem_cons_self
      obtain ⟨challenge, waiting, privateKeyPem, both, nonce, action⟩ :=
        added.sent response membership
      obtain ⟨challenged, verified⟩ := isSound.coherent.verified challenge waiting
      have isRest : rest = [.prompted challenge (some privateKeyPem)] := by
        have lists := isNew.symm.trans both
        rcases front with _ | ⟨first, _ | ⟨second, front⟩⟩
        · exact (List.cons.inj lists).2
        · simp at lists
        · simp at lists
      subst isRest
      exact ⟨challenge, privateKeyPem, _, rfl, challenged, verified, nonce, action⟩
  · intro challenge membership verified isHonest
    rw [show (current.step setting.library label).command.history = _ from isEvents,
      List.mem_append] at membership
    rcases membership with isNew | old
    · obtain ⟨msg, rfl, rfl⟩ := added.challenged challenge isNew
      obtain ⟨nonce, timestamp, text, isVerified⟩ := verifySignature_eq_true verified
      obtain ⟨message, signed, made⟩ :=
        trusted.challenge run current msg _ rfl found isVerified isHonest
      exact ⟨nonce, text, (made.challenge plain sound signed).mono later⟩
    · obtain ⟨nonce, text, issued⟩ := isSound.backed challenge old verified isHonest
      exact ⟨nonce, text, issued.mono later⟩

/-- A step at a laptop. -/
theorem Field.Sound.step_laptop (plain : ∀ laptop, PlainNumbers (setting.platform laptop))
    (sound : field.Sound setting honest) {acting : ℕ} {label : Windows.Label}
    (trusted : Trusted setting honest field (.laptop acting label)) :
    (field.step setting (.laptop acting label)).Sound setting honest := by
  have later := step_extends setting field (.laptop acting label)
  obtain ⟨events, isEvents, added⟩ :=
    Windows.step_added (setting.platform acting) (field.laptops acting) label
  have moved : Windows.NoncesSound (setting.platform acting)
        ((field.laptops acting).step (setting.platform acting) label) ∧
      Windows.PlacesSound ((field.laptops acting).step (setting.platform acting) label) := by
    rcases Windows.step_cases (setting.platform acting) (field.laptops acting) label with
      same | stepped
    · rw [same]
      exact ⟨sound.nonces acting, sound.places acting⟩
    · exact ⟨(sound.nonces acting).step stepped, (sound.places acting).step stepped⟩
  have nonces : ∀ laptop, Windows.NoncesSound (setting.platform laptop)
      ((field.step setting (.laptop acting label)).laptops laptop) := by
    intro laptop
    rw [Field.laptops_step_laptop]
    split
    next same =>
      subst same
      exact moved.1
    · exact sound.nonces laptop
  have random : ∀ laptop, ∀ issuing ∈ Windows.issuings
      ((field.step setting (.laptop acting label)).history laptop),
      ∃ random, issuing.1 = hex random := by
    intro laptop issuing membership
    rw [Field.history, Field.laptops_step_laptop] at membership
    split at membership
    next same =>
      subst same
      rw [isEvents, Windows.issuings_append, List.mem_append] at membership
      exact membership.elim (sound.random laptop issuing) (added.issued issuing)
    · exact sound.random laptop issuing membership
  have places : ∀ laptop, Windows.PlacesSound
      ((field.step setting (.laptop acting label)).laptops laptop) := by
    intro laptop
    rw [Field.laptops_step_laptop]
    split
    · exact moved.2
    · exact sound.places laptop
  refine ⟨nonces, places, random,
    fun run current found => (sound.runs run current found).mono later, ?_⟩
  · intro laptop acceptance membership isHonest
    have kept : acceptance ∈ Windows.acceptances (field.history laptop) →
        ∃ nonce run response, acceptance.nonce = .str nonce ∧
          Approves setting honest (field.step setting (.laptop acting label)) laptop
            acceptance.action nonce run response := by
      intro old
      obtain ⟨nonce, run, response, named, approves⟩ :=
        sound.accepted laptop acceptance old isHonest
      exact ⟨nonce, run, response, named, approves.mono later⟩
    obtain ⟨nonce, approved⟩ :=
      Windows.approved_of_mem (nonces laptop) (places laptop) membership
    obtain ⟨issueTime, issued, _⟩ := approved.issued
    obtain ⟨bytes, isHex⟩ := random laptop _ issued
    have noncePlain : colon ∉ nonce := by
      have isNonce : nonce = hex bytes := isHex
      rw [isNonce]
      exact colon_notMem_hex bytes
    rw [Field.history, Field.laptops_step_laptop] at membership
    split at membership
    next same =>
      subst same
      rw [isEvents, Windows.acceptances_append, List.mem_append] at membership
      rcases membership with old | isNew
      · exact kept old
      · obtain ⟨⟨members, pipe, isLabel, isSignature⟩, _⟩ := added.accepted acceptance isNew
        obtain ⟨text, message, sig, isText, signed, read, verifies⟩ := approved.signed
        rw [isText] at isSignature
        have made := trusted.response laptop acceptance.connection members pipe text sig message
          (by rw [isLabel]) isSignature read verifies isHonest
        obtain ⟨run, response, approves⟩ := made.approves sound noncePlain
          ((plain laptop).float acceptance.timestamp) signed
        exact ⟨nonce, run, response, approved.named, approves.mono later⟩
    · exact kept membership

/-- A step that leaves the laptops alone. -/
theorem Field.Sound.of_laptops (sound : field.Sound setting honest)
    (later : field.Extends after) (same : after.laptops = field.laptops)
    (runs : ∀ run current, after.runs run = some current → current.Sound setting honest after) :
    after.Sound setting honest := by
  have histories : ∀ laptop, after.history laptop = field.history laptop := fun laptop => by
    rw [Field.history, Field.history, same]
  refine ⟨fun laptop => same ▸ sound.nonces laptop, fun laptop => same ▸ sound.places laptop,
    fun laptop => histories laptop ▸ sound.random laptop, runs, ?_⟩
  intro laptop acceptance membership isHonest
  rw [histories] at membership
  obtain ⟨nonce, run, response, named, approves⟩ :=
    sound.accepted laptop acceptance membership isHonest
  exact ⟨nonce, run, response, named, approves.mono later⟩

/-- A run that has just been started. -/
theorem Run.sound_start {current : Run} (isStart : current.command = .start) :
    current.Sound setting honest field := by
  have empty : current.command.history = [] := by
    rw [isStart]
    rfl
  refine ⟨isStart ▸ Command.coherent_start, fun later response earlier behind => ?_,
    fun challenge membership => ?_⟩
  · rw [empty] at behind
    simp at behind
  · rw [empty] at membership
    contradiction

theorem Field.Sound.step (plain : ∀ laptop, PlainNumbers (setting.platform laptop))
    (sound : field.Sound setting honest) {move : Move}
    (trusted : Trusted setting honest field move) :
    (field.step setting move).Sound setting honest := by
  have later := step_extends setting field move
  cases move with
  | laptop acting label => exact sound.step_laptop plain trusted
  | start acting action stored =>
      have same := Field.laptops_step_start setting field acting action stored
      refine sound.of_laptops later same fun run current found => ?_
      rcases Field.runs_step_start setting field acting action stored found with old | isStart
      · exact (sound.runs run current old).mono later
      · exact Run.sound_start isStart
  | phone acting label =>
      refine sound.of_laptops later rfl fun run current found => ?_
      rw [Field.runs_step_phone] at found
      split at found
      next same =>
        subst same
        obtain ⟨before, isBefore, rfl⟩ := Option.map_eq_some_iff.mp found
        exact Run.Sound.step plain sound later trusted isBefore
      · exact (sound.runs run current found).mono later

theorem Field.sound_start : (Field.start : Field Number).Sound setting honest where
  nonces _ := Windows.noncesSound_start
  places _ := Windows.placesSound_start
  random _ _ membership := by contradiction
  runs _ _ found := by contradiction
  accepted _ _ membership := by contradiction

end Steps

/-! ## Effects -/

/-- No two laptops draw the same nonce. -/
def NoncesApart (field : Field Number) : Prop :=
  ∀ first second nonce time otherTime,
    (nonce, time) ∈ Windows.issuings (field.history first) →
      (nonce, otherTime) ∈ Windows.issuings (field.history second) → first = second

/-- Behind an effect at a laptop stands the response of a run: it was accepted for a nonce that
the laptop has issued shortly before, the user has confirmed this action for a challenge with
the nonce, and the key that the phone has stored, if it is in trust, is that of the laptop. -/
structure StandsBehind (setting : Setting Number Key) (honest : Key → Prop)
    (field : Field Number) (laptop : ℕ) (effect : ℕ × Action) (run : ℕ) (response : Response) :
    Prop where
  happened : effect ∈ Windows.effects (field.history laptop)
  accepted : ∃ acceptance ∈ Windows.acceptances (field.history laptop), ∃ nonce,
    acceptance.connection = effect.1 ∧ acceptance.action = effect.2 ∧
      Windows.Approved (setting.platform laptop) (field.laptops laptop) acceptance nonce ∧
      Approves setting honest field laptop effect.2 nonce run response
  pinned : ∀ current, field.runs run = some current →
    honest (setting.publicKey current.laptopPublicKeyPem) →
      setting.signingKey laptop = setting.publicKey current.laptopPublicKeyPem

section Effects

variable {setting : Setting Number Key} {honest : Key → Prop} {field : Field Number}

theorem Field.Sound.stands (sound : field.Sound setting honest) (apart : NoncesApart field)
    {laptop : ℕ} (isHonest : honest (setting.acceptedKey laptop)) {effect : ℕ × Action}
    (happened : effect ∈ Windows.effects (field.history laptop)) :
    ∃ run response, StandsBehind setting honest field laptop effect run response := by
  obtain ⟨_, acceptance, accepted, own, action⟩ :=
    (sound.places laptop).called effect ((sound.places laptop).effective.subset happened)
  obtain ⟨nonce, approved⟩ :=
    Windows.approved_of_mem (sound.nonces laptop) (sound.places laptop) accepted
  obtain ⟨name, run, response, named, approves⟩ :=
    sound.accepted laptop acceptance accepted isHonest
  rw [approved.named, Json.str.injEq] at named
  subst named
  rw [action] at approves
  refine ⟨run, response, happened, ⟨acceptance, accepted, nonce, own, action, approved, approves⟩,
    fun current found isTrusted => ?_⟩
  obtain ⟨grown, _, _, _, _, isGrown, _, _, _, _, _, issued⟩ := approves
  obtain rfl := Option.some.inj (found.symm.trans isGrown)
  obtain ⟨issuer, time, isIssuer, issuedThere⟩ := issued isTrusted
  obtain ⟨issueTime, issuedHere, _⟩ := approved.issued
  rw [apart laptop issuer nonce issueTime time issuedHere issuedThere]
  exact isIssuer

/-- No response stands behind two effects. -/
theorem Field.Sound.stands_unique (sound : field.Sound setting honest)
    (apart : NoncesApart field) {laptop other : ℕ} {effect otherEffect : ℕ × Action} {run : ℕ}
    {response : Response}
    (first : StandsBehind setting honest field laptop effect run response)
    (second : StandsBehind setting honest field other otherEffect run response) :
    laptop = other ∧ effect = otherEffect := by
  obtain ⟨acceptance, accepted, nonce, own, _, approved, approves⟩ := first.accepted
  obtain ⟨otherAcceptance, otherAccepted, otherNonce, otherOwn, _, otherApproved, otherApproves⟩ :=
    second.accepted
  have textOf {laptop : ℕ} {action : Action} {nonce : PyStr}
      (approves : Approves setting honest field laptop action nonce run response) :
      interpolate response.nonce = some nonce := by
    obtain ⟨_, _, _, _, _, _, _, consented, _, _, text, _⟩ := approves
    rw [consented.nonce]
    exact text
  have same : nonce = otherNonce :=
    Option.some.inj ((textOf approves).symm.trans (textOf otherApproves))
  subst same
  obtain ⟨time, issued, _⟩ := approved.issued
  obtain ⟨otherTime, otherIssued, _⟩ := otherApproved.issued
  obtain rfl := apart laptop other nonce time otherTime issued otherIssued
  refine ⟨rfl, ?_⟩
  have sameConnection := Windows.connection_of_approved (sound.nonces laptop)
    (sound.places laptop) accepted otherAccepted approved otherApproved
  have once : ((Windows.effects (field.history laptop)).map Prod.fst).Nodup :=
    ((sound.places laptop).effective.map Prod.fst).nodup (sound.places laptop).once
  exact List.inj_on_of_nodup_map once first.happened second.happened
    (own.symm.trans (sameConnection.trans otherOwn))

end Effects

/-- The password is written and the machine shut down only where a user has confirmed this very
action on the phone, for a challenge of this laptop, and no response of a phone serves twice. -/
theorem effects_approved (setting : Setting Number Key) (honest : Key → Prop)
    (plain : ∀ laptop, PlainNumbers (setting.platform laptop)) {moves : List Move}
    (trusted : Along (Field.step setting) (Trusted setting honest) Field.start moves)
    (apart : NoncesApart (run (Field.step setting) Field.start moves)) :
    (∀ laptop, honest (setting.acceptedKey laptop) →
      ∀ effect ∈ Windows.effects
        ((run (Field.step setting) Field.start moves).history laptop), ∃ runs response,
          StandsBehind setting honest (run (Field.step setting) Field.start moves) laptop effect
            runs response) ∧
    ∀ laptop other effect otherEffect runs response,
      StandsBehind setting honest (run (Field.step setting) Field.start moves) laptop effect
          runs response →
        StandsBehind setting honest (run (Field.step setting) Field.start moves) other
            otherEffect runs response →
          laptop = other ∧ effect = otherEffect := by
  have keeps : ∀ (field : Field Number) (move : Move), field.Sound setting honest →
      Trusted setting honest field move → (field.step setting move).Sound setting honest :=
    fun _ _ sound trusted => sound.step plain trusted
  have sound := run_invariant_along keeps Field.sound_start trusted
  exact ⟨fun laptop isHonest effect happened => sound.stands apart isHonest happened,
    fun laptop other effect otherEffect runs response first second =>
      sound.stands_unique apart first second⟩

/-! ## A phone that unlocks a laptop -/

/-- Half a second after the epoch, and a fifth later, as the two languages write them. -/
def halfPlatform : Windows.Platform Unit where
  sign message := message
  verify sig message := sig = message
  password := py "hunter2"
  shutdownEnabled := false
  clockText _ := "0.5".toList
  float _ := .ok ()
  floatText _ := "0.7".toList
  isApart _ _ _ := false

/-- The hex digits of a text stand for a signature of it. -/
def plainJsrsasign : Jsrsasign where
  sign _ message :=
    match encodeStr message with
    | .ok bytes => some (hex bytes)
    | .error _ => none
  verify _ message signature :=
    match encodeStr message with
    | .ok bytes => some (Value.isText (hex bytes) signature)
    | .error _ => some false

/-- Laptops sign with one key and phones with another. -/
def halfSetting : Setting Unit Bool :=
  ⟨fun _ => halfPlatform, plainJsrsasign, fun _ => false, fun _ => true, fun _ => true,
    fun _ => false⟩

def halfNonce : Text := "07".toList

def halfChallenge : Challenge :=
  ⟨some (.string (ofText halfNonce)), some (.number (.finite false (clock 500))),
    some (.string (hex (message "challenge".toList halfNonce "0.5".toList)))⟩

def halfMessage : Value :=
  .object [(py "type", .string (py "challenge")), (py "nonce", .string (ofText halfNonce)),
    (py "timestamp", .number (.finite false (clock 500))),
    (py "signature",
      .string (hex (message "challenge".toList halfNonce "0.5".toList)))]

def halfResponse : Response :=
  ⟨.unlock, some (.string (ofText halfNonce)), clock 700,
    hex (message "unlock".toList halfNonce "0.7".toList)⟩

def halfAnswer : Json :=
  .obj [(py "type", .str (py "response")), (py "action", .str (py "unlock")),
    (py "nonce", .str (ofText halfNonce)), (py "timestamp", .float (.finite false (clock 700))),
    (py "signature", .str (hex (message "unlock".toList halfNonce "0.7".toList)))]

def halfMoves : List Move :=
  [.laptop 0 (.pass (1 / 2 : ℚ).toNNRat), .laptop 0 (.connect [7] .works),
    .laptop 0 (.greeted 0 none .works), .start 0 .unlock (some (py "laptop")),
    .phone 0 (.message (some halfMessage)), .phone 0 (.prompt 0 (some (py "key")) 700),
    .laptop 0 (.received 0 (.ok halfAnswer) .works), .laptop 0 (.sent 0 none .works .works)]

theorem halfChallenge_verified :
    plainJsrsasign.verifySignature (py "laptop") halfChallenge (py "challenge") = true := by
  decide +kernel

theorem halfResponse_signed :
    plainJsrsasign.signChallenge (py "key") halfChallenge.nonce (clock 700) (py "unlock") =
      some (hex (message "unlock".toList halfNonce "0.7".toList)) := by
  decide +kernel

/-- Nothing is delivered that has a signature in it. -/
def Move.quiet : Move → Bool
  | .laptop _ (.received _ _ _) => false
  | .phone _ (.message _) => false
  | _ => true

theorem trusted_of_quiet {setting : Setting Number Key} {honest : Key → Prop}
    {field : Field Number} {move : Move} (quiet : move.quiet = true) :
    Trusted setting honest field move where
  response laptop connection members pipe text sig message same := by
    rw [same] at quiet
    contradiction
  challenge run current msg text same := by
    rw [same] at quiet
    contradiction

theorem hex_injective {first second : Bytes} (same : hex first = hex second) : first = second := by
  have read := congrArg fromHex same
  rwa [fromHex_hex, fromHex_hex, Option.some.injEq] at read

theorem trusted_halfMessage {field : Field Unit}
    (issued : (ofText halfNonce, (1 / 2 : ℚ)) ∈ Windows.issuings (field.history 0)) :
    Trusted halfSetting (fun _ => True) field (.phone 0 (.message (some halfMessage))) where
  response laptop connection members pipe text sig message same := by contradiction
  challenge run current msg text same found verifies _ := by
    obtain ⟨rfl, label⟩ := Move.phone.inj same
    obtain rfl := Option.some.inj (Label.message.inj label)
    have signature : halfMessage.property (py "signature") =
        some (.string (hex (message "challenge".toList halfNonce "0.5".toList))) := rfl
    rw [signature] at verifies
    cases encoded : encodeStr text with
    | error exc => simp [halfSetting, plainJsrsasign, encoded] at verifies
    | ok bytes =>
        have sameHex : hex (message "challenge".toList halfNonce "0.5".toList) = hex bytes := by
          simpa [halfSetting, plainJsrsasign, encoded, Value.isText] using verifies
        rw [← hex_injective sameHex]
        exact ⟨_, rfl, .laptop 0 (ofText halfNonce) (1 / 2) rfl issued
          (Windows.signedText_ofText _ _ _)⟩

theorem trusted_halfAnswer {field : Field Unit} {current : Run}
    (found : field.runs 0 = some current)
    (behind : current.command.history = [.sent halfResponse,
      .prompted halfChallenge (some (py "key")), .challenged halfChallenge]) :
    Trusted halfSetting (fun _ => True) field
      (.laptop 0 (.received 0 (.ok halfAnswer) .works)) where
  response laptop connection members pipe text sig bytes same isText read verifies _ := by
    obtain ⟨rfl, label⟩ := Move.laptop.inj same
    obtain ⟨_, answer, _⟩ := Windows.Label.received.inj label
    obtain rfl := Json.obj.inj (Except.ok.inj answer)
    have isHex : hex (message "unlock".toList halfNonce "0.7".toList) = text := by
      have signature :
          some (Json.str (hex (message "unlock".toList halfNonce "0.7".toList))) =
            some (.str text) := isText
      exact Json.str.inj (Option.some.inj signature)
    rw [← isHex, fromHex_hex, Option.some.injEq] at read
    have own : sig = bytes := of_decide_eq_true verifies
    rw [← own, ← read]
    refine .phone 0 current halfResponse halfChallenge (py "key") (ofText halfNonce) []
      [.challenged halfChallenge] found behind rfl rfl ?_
    have number : numberText (clock 700) = "0.7".toList := by decide +kernel
    change encodeStr (template (py "unlock") (ofText halfNonce) (ofText (numberText (clock 700)))) =
      .ok _
    rw [number]
    exact Windows.signedText_ofText _ _ _
  challenge run current msg text same := by contradiction

theorem start_halfMessage :
    Command.start.step plainJsrsasign .unlock (py "laptop") (.message (some halfMessage)) =
      ⟨false, [halfChallenge], [.challenged halfChallenge]⟩ := by
  have noted : Command.start.step plainJsrsasign .unlock (py "laptop")
      (.message (some halfMessage)) =
        Command.start.challenge plainJsrsasign (py "laptop") halfChallenge := rfl
  rw [noted, Command.challenge, if_pos halfChallenge_verified]
  rfl

theorem prompt_halfChallenge :
    Command.step plainJsrsasign .unlock (py "laptop")
        ⟨false, [halfChallenge], [.challenged halfChallenge]⟩ (.prompt 0 (some (py "key")) 700) =
      ⟨false, [], [.sent halfResponse, .prompted halfChallenge (some (py "key")),
        .challenged halfChallenge]⟩ := by
  have usable : truthy (some (py "key")) = some (py "key") := rfl
  have signed : plainJsrsasign.signChallenge (py "key") halfChallenge.nonce (clock 700)
      Action.unlock.text = some (hex (message "unlock".toList halfNonce "0.7".toList)) :=
    halfResponse_signed
  simp only [Command.step, List.getElem?_cons_zero, Command.prompt, usable, signed, Command.send]
  rfl

/-- The laptop, the phone and what is delivered between them. -/
theorem trusted_halfMoves :
    Along (Field.step halfSetting) (Trusted halfSetting fun _ => True) Field.start halfMoves := by
  have issued : (ofText halfNonce, (1 / 2 : ℚ)) ∈ Windows.issuings
      ((run (Field.step halfSetting) Field.start (halfMoves.take 4)).history 0) := by
    decide +kernel
  have found : (run (Field.step halfSetting) Field.start (halfMoves.take 6)).runs 0 =
      some (Run.step plainJsrsasign (Run.step plainJsrsasign ⟨.unlock, py "laptop", .start⟩
        (.message (some halfMessage))) (.prompt 0 (some (py "key")) 700)) := rfl
  have behind : (Run.step plainJsrsasign (Run.step plainJsrsasign ⟨.unlock, py "laptop", .start⟩
      (.message (some halfMessage))) (.prompt 0 (some (py "key")) 700)).command.history =
        [.sent halfResponse, .prompted halfChallenge (some (py "key")),
          .challenged halfChallenge] := by
    simp only [Run.step, start_halfMessage, prompt_halfChallenge]
  exact ⟨trusted_of_quiet rfl, trusted_of_quiet rfl, trusted_of_quiet rfl, trusted_of_quiet rfl,
    trusted_halfMessage issued, trusted_of_quiet rfl, trusted_halfAnswer found behind,
    trusted_of_quiet rfl, trivial⟩

theorem noncesApart_halfMoves :
    NoncesApart (run (Field.step halfSetting) Field.start halfMoves) := by
  have nothing {laptop : ℕ} (different : laptop ≠ 0) {nonce : PyStr} {time : ℚ}
      (issued : (nonce, time) ∈ Windows.issuings
        ((run (Field.step halfSetting) Field.start halfMoves).history laptop)) : False := by
    simp only [halfMoves, run_cons, run_nil, Field.history, Field.laptops_step_laptop,
      Field.laptops_step_start, Field.laptops_step_phone, if_neg different] at issued
    contradiction
  intro first second nonce time otherTime inFirst inSecond
  by_cases isFirst : first = 0
  · by_cases isSecond : second = 0
    · rw [isFirst, isSecond]
    · exact (nothing isSecond inSecond).elim
  · exact (nothing isFirst inFirst).elim

/-- What the laptop writes has the response of the phone behind it. -/
theorem effects_approved_halfMoves :
    (0, Action.unlock) ∈
        Windows.effects ((run (Field.step halfSetting) Field.start halfMoves).history 0) ∧
      ∃ runs response, StandsBehind halfSetting (fun _ => True)
        (run (Field.step halfSetting) Field.start halfMoves) 0 (0, .unlock) runs response := by
  have plain : ∀ laptop, PlainNumbers (halfSetting.platform laptop) := fun _ =>
    ⟨fun _ => by simp [halfSetting, halfPlatform], fun _ => by simp [halfSetting, halfPlatform]⟩
  have happened : (0, Action.unlock) ∈ Windows.effects
      ((run (Field.step halfSetting) Field.start halfMoves).history 0) := by
    decide +kernel
  exact ⟨happened, (effects_approved halfSetting (fun _ => True) plain trusted_halfMoves
    noncesApart_halfMoves).1 0 trivial (0, .unlock) happened⟩

end RemoteUnlock.MobileApp
