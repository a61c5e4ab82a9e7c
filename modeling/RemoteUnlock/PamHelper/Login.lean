import RemoteUnlock.Client.Agreement
import RemoteUnlock.Listener.PamRequest
import RemoteUnlock.PamHelper.Request

/-!
# A login from the phone to PAM

Helpers ask the listeners of a network.  What is delivered to a helper is what its listener
has written, in pieces of any size, or comes from a socket of another user; a helper that
says yes has therefore got the reply to its own request, and behind it stand a grant and
the run of a client, each used for one login.
-/

namespace RemoteUnlock.PamHelper

open Python Python.Items Common Library

variable {Key : Type} {platform : Listener.Platform Key}

/-! ## The machine -/

/-- A run of the helper: the laptop it runs on, the user who logs in, the user id it expects at
the other end of the socket, and the request it is served as where it is a listener's. -/
structure Helper where
  laptop : ℕ
  user : PyStr
  expectedUid : ℤ
  place : Place
  request : Option ℕ

/-- What is at the other end of the socket. -/
inductive Server where
  | listener (request : ℕ)
  | other (uid : ℤ)

/-- The laptops and the clients, with the helpers by their numbers. -/
structure Site (platform : Listener.Platform Key) where
  network : Client.Network platform
  helpers : ℕ → Option Helper

/-- What happens: something on the network, or a helper is started or a system call of it
ends. -/
inductive Action (Key : Type) where
  | network (action : Client.Action Key)
  | start (helper laptop : ℕ) (user : PyStr) (expectedUid : ℤ)
  | connected (helper : ℕ) (server : Except PyExc Server)
  | sent (helper : ℕ) (raises : Option PyExc)
  | received (helper : ℕ) (chunk : Except PyExc Bytes)

/-- What an event writes to the connection of a request. -/
def replyTo (request : ℕ) : Listener.Event → Bytes
  | .granted other _ => if other = request then yes else []
  | .denied other => if other = request then no else []
  | _ => []

/-- What is written to the connection of a request. -/
def written (request : ℕ) (history : List Listener.Event) : Bytes :=
  history.flatMap (replyTo request)

namespace Site

def setHelper (site : Site platform) (helper : ℕ) (current : Helper) : Site platform :=
  { site with helpers := Function.update site.helpers helper (some current) }

theorem helpers_setHelper (site : Site platform) (helper : ℕ) (current : Helper) (other : ℕ) :
    (site.setHelper helper current).helpers other =
      if other = helper then some current else site.helpers other :=
  Function.update_apply _ _ _ _

/-- What can be read next: a piece of what the listener has written and the helper has not
read. -/
def delivers (site : Site platform) (current : Helper) : Except PyExc Bytes → Bool
  | .ok chunk => chunk.length ≤ 8 &&
      match current.request, current.place with
      | some request, .receiving reply =>
          chunk.isPrefixOf
            ((written request (site.network.history current.laptop)).drop reply.length)
      | _, _ => true
  | .error _ => true

end Site

/-- A helper that has connected; the listener of each laptop runs as its service user. -/
def Helper.connected (serviceUid : ℕ → ℤ) (current : Helper) :
    Except PyExc Server → Helper
  | .ok (.listener request) =>
      { current with
        place := current.place.connected current.expectedUid (.ok (serviceUid current.laptop))
        request := some request }
  | .ok (.other uid) =>
      { current with place := current.place.connected current.expectedUid (.ok uid) }
  | .error exc => { current with place := current.place.connected current.expectedUid (.error exc) }

/-- One step; what cannot happen leaves everything as it is. -/
def step (int : Json → Except PyExc ℤ) (serviceUid : ℕ → ℤ) (site : Site platform) :
    Action Key → Site platform
  | .network action => { site with network := Client.step int site.network action }
  | .start helper laptop user expectedUid =>
      match site.helpers helper with
      | some _ => site
      | none => site.setHelper helper ⟨laptop, user, expectedUid, .connecting, none⟩
  | .connected helper server =>
      match site.helpers helper with
      | some current =>
          if current.place = .connecting then
            site.setHelper helper (current.connected serviceUid server)
          else site
      | none => site
  | .sent helper raises =>
      match site.helpers helper with
      | some current => site.setHelper helper { current with place := current.place.sent raises }
      | none => site
  | .received helper chunk =>
      match site.helpers helper with
      | some current =>
          if site.delivers current chunk then
            site.setHelper helper { current with place := current.place.received chunk }
          else site
      | none => site

/-- Everything when the laptops have been started. -/
def Site.start (platform : Listener.Platform Key) (setups : ℕ → Listener.Setup) : Site platform :=
  ⟨.start platform setups, fun _ => none⟩

/-- Everything after a sequence of actions. -/
def Site.after (platform : Listener.Platform Key) (int : Json → Except PyExc ℤ)
    (serviceUid : ℕ → ℤ) (setups : ℕ → Listener.Setup) (actions : List (Action Key)) :
    Site platform :=
  run (step int serviceUid) (Site.start platform setups) actions

/-! ## What is assumed of a step -/

/-- `json.loads` of ASCII text is that of its characters, as far as it is an object of texts. -/
def ReadsAscii (platform : Listener.Platform Key) : Prop :=
  ∀ (text : Text) (members : Dict),
    (∀ character ∈ text, 0 < character.toNat ∧ character.toNat < 0x80) →
      Json.loads text = some (.obj members) →
        (∀ member ∈ members, ∃ value, member.2 = .str value) →
          platform.loadsBytes (encode text) = .ok (.obj members)

section Proper

variable (signingKey : ℕ → Key) (honest : Key → Prop)

/-- Signatures are no forgeries, each connection is served as a request of its own, no other
process runs as the service user, and the line that is read on the connection of a helper is
the one it has sent, unless the helper is done. -/
structure Proper (site : Site platform) (action : Action Key) : Prop where
  trusted : ∀ act, action = .network act → Client.Trusted signingKey honest site.network act
  served : ∀ helper request current, action = .connected helper (.ok (.listener request)) →
    site.helpers helper = some current →
      (site.network.laptops current.laptop).requests request = none ∧
        ∀ other running, site.helpers other = some running → running.laptop = current.laptop →
          running.request ≠ some request
  exclusive : ∀ helper uid current, action = .connected helper (.ok (.other uid)) →
    site.helpers helper = some current → uid ≠ current.expectedUid
  line : ∀ laptop request raw answers,
    action = .network (.laptop laptop (.pamResume request (.line raw) answers)) →
      ∀ helper current, site.helpers helper = some current → current.laptop = laptop →
        current.request = some request →
          (∃ granted, current.place = .done granted) ∨ raw = requestLine current.user

end Proper

/-! ## What is written -/

theorem written_append (request : ℕ) (first second : List Listener.Event) :
    written request (first ++ second) = written request first ++ written request second :=
  List.flatMap_append

theorem prefix_written (request : ℕ) {first second : List Listener.Event}
    (isPrefix : first <+: second) : written request first <+: written request second := by
  obtain ⟨rest, rfl⟩ := isPrefix
  rw [written_append]
  exact List.prefix_append _ _

/-- A reply that begins with a yes was given for a grant. -/
theorem granted_of_written {request : ℕ} {history : List Listener.Event}
    (isYes : yes <+: written request history) :
    ∃ taking, .granted request taking ∈ history := by
  induction history with
  | nil => simp [written, yes] at isYes
  | cons event history inductionHypothesis =>
      rw [written, List.flatMap_cons, ← written] at isYes
      have rest : replyTo request event = [] → ∃ taking, .granted request taking ∈ event :: history
          := by
        intro silent
        rw [silent, List.nil_append] at isYes
        obtain ⟨taking, found⟩ := inductionHypothesis isYes
        exact ⟨taking, List.mem_cons_of_mem _ found⟩
      cases event with
      | granted other taking =>
          by_cases same : other = request
          · exact ⟨taking, same ▸ List.mem_cons_self⟩
          · exact rest (if_neg same)
      | denied other =>
          by_cases same : other = request
          · rw [replyTo, if_pos same] at isYes
            simp [yes, no] at isYes
          · exact rest (if_neg same)
      | _ => exact rest rfl

/-! ## Helpers and their requests -/

/-- What a helper of a user asks for. -/
def AsksFor (user : PyStr) (petition : Listener.Petition) : Prop :=
  ∀ asked ∈ petition.message, asked = requested user

/-- What holds of a helper where it waits: it is served by the listener, for its own request
alone, has read what was written to it, and has said yes only for a grant. -/
def Helper.Sound (network : Client.Network platform) (current : Helper) : Prop :=
  match current.place with
  | .connecting => current.request = none
  | .sending => ∃ request, current.request = some request ∧
      (network.laptops current.laptop).Asks request (AsksFor current.user)
  | .receiving reply => ∃ request, current.request = some request ∧
      (network.laptops current.laptop).Asks request (AsksFor current.user) ∧
        reply <+: written request (network.history current.laptop)
  | .done true => ∃ request taking, current.request = some request ∧
      .granted request taking ∈ network.history current.laptop ∧
        taking.request = requested current.user
  | .done false => True

/-- No two helpers are served as one request. -/
def Site.Distinct (site : Site platform) : Prop :=
  ∀ first second one two request, site.helpers first = some one →
    site.helpers second = some two → one.laptop = two.laptop → one.request = some request →
      two.request = some request → first = second

/-- What holds all along. -/
structure Site.Sound (site : Site platform) : Prop where
  unserved : ∀ laptop, (site.network.laptops laptop).Unserved
  distinct : site.Distinct
  helpers : ∀ helper current, site.helpers helper = some current → current.Sound site.network

section Step

variable {int : Json → Except PyExc ℤ} {serviceUid : ℕ → ℤ} {network : Client.Network platform}
  {current : Helper}

/-- With a request for what it asks for, a loop that goes on or stops is as it has to be. -/
theorem sound_loop {request : ℕ} {reply : Bytes} (isRequest : current.request = some request)
    (asks : (network.laptops current.laptop).Asks request (AsksFor current.user))
    (isPrefix : reply <+: written request (network.history current.laptop)) :
    ({ current with place := Place.loop reply } : Helper).Sound network := by
  have finished : reply = yes →
      ({ current with place := Place.done true } : Helper).Sound network := by
    rintro rfl
    obtain ⟨taking, granted⟩ := granted_of_written isPrefix
    refine ⟨request, taking, isRequest, granted, ?_⟩
    exact asks.history _ granted _ (if_pos rfl) _ rfl
  by_cases isYes : reply = yes
  · have stops : Place.loop reply = .done true := (loop_eq_done_true_iff reply).mpr isYes
    rw [stops]
    exact finished isYes
  · unfold Place.loop
    split
    · exact ⟨request, isRequest, asks, isPrefix⟩
    · rw [decide_eq_false isYes]
      trivial

/-- A step of the laptops in which the lines of helpers are their own keeps what holds of
helpers. -/
theorem sound_laptop {laptop : ℕ} {label : Listener.Label} (sound : current.Sound network)
    (reads : ∀ request, current.request = some request → current.laptop = laptop →
      (∀ granted, current.place ≠ .done granted) →
        (network.laptops laptop).Reads request (AsksFor current.user) label) :
    current.Sound (Client.step int network (.laptop laptop label)) := by
  have later : network.history current.laptop <+:
      (Client.step int network (.laptop laptop label)).history current.laptop := by
    by_cases same : current.laptop = laptop
    · subst same
      simpa [Client.Network.history, Client.step] using
        (Listener.step_cases (network.laptops current.laptop) label).history
    · simp [Client.Network.history, Client.step, same]
  have asks : ∀ request, current.request = some request →
      (∀ granted, current.place ≠ .done granted) →
        (network.laptops current.laptop).Asks request (AsksFor current.user) →
          ((Client.step int network (.laptop laptop label)).laptops current.laptop).Asks request
            (AsksFor current.user) := by
    intro request isRequest working asks
    by_cases same : current.laptop = laptop
    · subst same
      simp only [Client.step, Function.update_self]
      exact (Listener.step_cases _ label).asks (reads request isRequest rfl working) asks
    · simp only [Client.step, Function.update_of_ne same]
      exact asks
  unfold Helper.Sound at sound ⊢
  cases place : current.place with
  | connecting =>
      rw [place] at sound
      exact sound
  | sending =>
      rw [place] at sound
      obtain ⟨request, isRequest, asked⟩ := sound
      exact ⟨request, isRequest, asks request isRequest (by simp [place]) asked⟩
  | receiving reply =>
      rw [place] at sound
      obtain ⟨request, isRequest, asked, isPrefix⟩ := sound
      exact ⟨request, isRequest, asks request isRequest (by simp [place]) asked,
        isPrefix.trans (prefix_written request later)⟩
  | done granted =>
      rw [place] at sound
      cases granted with
      | false => trivial
      | true =>
          obtain ⟨request, taking, isRequest, isGranted, isUser⟩ := sound
          exact ⟨request, taking, isRequest, later.subset isGranted, isUser⟩

/-- The line of a helper asks for its user. -/
theorem reads_requestLine (reads : ReadsAscii platform) (user : PyStr) (uid : ℤ) :
    AsksFor user ⟨uid, (Listener.parseRequest platform (requestLine user)).toOption⟩ := by
  intro asked isAsked
  have loaded : platform.loadsBytes (requestLine user) = .ok (.obj (requested user)) := by
    apply reads _ _ (ascii_requestText user) (loads_requestText user)
    intro member membership
    rw [List.mem_singleton.mp membership]
    exact ⟨_, rfl⟩
  simp only [Listener.parseRequest, loaded, bind, Except.bind] at isAsked
  exact (Option.some.inj isAsked).symm

/-- A helper changes: the others stay what they are. -/
theorem Site.Sound.setHelper {site : Site platform} (sound : site.Sound) {helper : ℕ}
    {next : Helper} (isSound : next.Sound site.network)
    (distinct : ∀ other running request, other ≠ helper → site.helpers other = some running →
      running.laptop = next.laptop → next.request = some request →
        running.request ≠ some request) : (site.setHelper helper next).Sound := by
  refine ⟨sound.unserved, ?_, ?_⟩
  · intro first second one two request isOne isTwo sameLaptop oneRequest twoRequest
    rw [Site.helpers_setHelper] at isOne isTwo
    split at isOne
    next isFirst =>
      obtain rfl := Option.some.inj isOne
      split at isTwo
      next isSecond => rw [isFirst, isSecond]
      next different =>
        exact (distinct second two request different isTwo sameLaptop.symm oneRequest
          twoRequest).elim
    next different =>
      split at isTwo
      next isSecond =>
        obtain rfl := Option.some.inj isTwo
        exact (distinct first one request different isOne sameLaptop twoRequest oneRequest).elim
      · exact sound.distinct first second one two request isOne isTwo sameLaptop oneRequest
          twoRequest
  · intro other running found
    rw [Site.helpers_setHelper] at found
    split at found
    · obtain rfl := Option.some.inj found
      exact isSound
    · exact sound.helpers other running found

/-- A helper goes on with the request it has. -/
theorem Site.Sound.setPlace {site : Site platform} (sound : site.Sound) {helper : ℕ}
    (found : site.helpers helper = some current) {place : Place}
    (isSound : ({ current with place := place } : Helper).Sound site.network) :
    (site.setHelper helper { current with place := place }).Sound := by
  apply sound.setHelper isSound
  intro other running request different isRunning sameLaptop isRequest same
  exact different (sound.distinct other helper running current request isRunning found sameLaptop
    same isRequest)

theorem sound_sent (sound : current.Sound network) (raises : Option PyExc) :
    ({ current with place := current.place.sent raises } : Helper).Sound network := by
  cases place : current.place with
  | sending =>
      unfold Helper.Sound at sound
      rw [place] at sound
      obtain ⟨request, isRequest, asks⟩ := sound
      cases raises with
      | none => exact sound_loop isRequest asks List.nil_prefix
      | some exc => trivial
  | _ =>
      unfold Helper.Sound at sound ⊢
      rw [place] at sound
      exact sound

theorem sound_received {site : Site platform} (sound : current.Sound site.network)
    {chunk : Except PyExc Bytes} (delivers : site.delivers current chunk = true) :
    ({ current with place := current.place.received chunk } : Helper).Sound site.network := by
  cases place : current.place with
  | receiving reply =>
      have isSound := sound
      unfold Helper.Sound at sound
      rw [place] at sound
      obtain ⟨request, isRequest, asks, isPrefix⟩ := sound
      cases chunk with
      | error exc => trivial
      | ok piece =>
          have grown : reply ++ piece <+:
              written request (site.network.history current.laptop) := by
            obtain ⟨rest, whole⟩ := isPrefix
            simp only [Site.delivers, isRequest, place, ← whole, List.drop_left, Bool.and_eq_true,
              List.isPrefixOf_iff_prefix] at delivers
            rw [← whole]
            exact (List.prefix_append_right_inj reply).mpr delivers.2
          cases piece with
          | nil =>
              -- at the end of the stream the loop stops with what it has
              by_cases isYes : reply = yes
              · have stops := sound_loop isRequest asks isPrefix
                rw [(loop_eq_done_true_iff reply).mpr isYes] at stops
                rw [Place.received, decide_eq_true isYes]
                exact stops
              · rw [Place.received, decide_eq_false isYes]
                trivial
          | cons first piece => exact sound_loop isRequest asks grown
  | _ =>
      unfold Helper.Sound at sound ⊢
      rw [place] at sound
      exact sound

variable {signingKey : ℕ → Key} {honest : Key → Prop}

/-- What holds of a helper is about the laptops. -/
theorem Helper.Sound.of_laptops {other : Client.Network platform} (sound : current.Sound network)
    (same : other.laptops = network.laptops) : current.Sound other := by
  obtain ⟨laptops, clients⟩ := network
  obtain ⟨otherLaptops, otherClients⟩ := other
  obtain rfl : otherLaptops = laptops := same
  exact sound

theorem laptops_step_of_client {act : Client.Action Key}
    (isClient : ∀ laptop label, act ≠ .laptop laptop label) :
    (Client.step int network act).laptops = network.laptops := by
  cases act with
  | laptop laptop label => exact (isClient laptop label rfl).elim
  | start run arguments =>
      simp only [Client.step]
      split <;> rfl
  | received run message => rfl
  | sent run raises => rfl

theorem Site.Sound.onNetwork {site : Site platform} (reads : ReadsAscii platform)
    (sound : site.Sound) {act : Client.Action Key}
    (proper : Proper signingKey honest site (.network act)) :
    Site.Sound { site with network := Client.step int site.network act } := by
  by_cases isClient : ∀ laptop label, act ≠ .laptop laptop label
  · have same : (Client.step int site.network act).laptops = site.network.laptops :=
      laptops_step_of_client isClient
    refine ⟨?_, sound.distinct, ?_⟩
    · intro laptop
      simp only [same]
      exact sound.unserved laptop
    · exact fun helper current found => (sound.helpers helper current found).of_laptops same
  · push Not at isClient
    obtain ⟨laptop, label, rfl⟩ := isClient
    refine ⟨?_, sound.distinct, ?_⟩
    · intro other
      by_cases same : other = laptop
      · subst same
        simp only [Client.step, Function.update_self]
        exact (Listener.step_cases _ label).unserved (sound.unserved other)
      · simp only [Client.step, Function.update_of_ne same]
        exact sound.unserved other
    · intro helper current found
      refine @sound_laptop Key platform int site.network current laptop label
        (sound.helpers helper current found) ?_
      intro request isRequest isHere working
      cases label with
      | pamResume other awaited answers =>
          cases awaited with
          | line raw =>
              rintro rfl _ uid _
              have isLine := proper.line laptop other raw answers rfl helper current found isHere
                isRequest
              obtain ⟨granted, written⟩ | rfl := isLine
              · exact (working granted written).elim
              · exact reads_requestLine reads current.user uid
          | _ => trivial
      | pamConnect other credentials answers =>
          exact fun _ _ peer _ asked absent => by contradiction
      | _ => trivial

theorem Site.Sound.connected {site : Site platform} (sound : site.Sound) {helper : ℕ}
    {server : Except PyExc Server}
    (proper : Proper signingKey honest site (.connected helper server))
    (found : site.helpers helper = some current) (waits : current.place = .connecting) :
    (site.setHelper helper (current.connected serviceUid server)).Sound := by
  have noRequest : current.request = none := by
    have isSound := sound.helpers helper current found
    unfold Helper.Sound at isSound
    rwa [waits] at isSound
  match server with
  | .error exc =>
      apply sound.setHelper
      · simp only [Helper.connected, waits, Place.connected]
        trivial
      · intro other running request _ _ _ isRequest
        rw [Helper.connected, noRequest] at isRequest
        contradiction
  | .ok (.other uid) =>
      have notService := proper.exclusive helper uid current rfl found
      apply sound.setHelper
      · simp only [Helper.connected, waits, Place.connected, if_neg notService]
        trivial
      · intro other running request _ _ _ isRequest
        rw [Helper.connected, noRequest] at isRequest
        contradiction
  | .ok (.listener request) =>
      obtain ⟨isFree, fresh⟩ := proper.served helper request current rfl found
      apply sound.setHelper
      · simp only [Helper.connected, waits, Place.connected]
        split
        · have nothing := sound.unserved current.laptop request isFree
          exact ⟨request, rfl, nothing.mono fun _ absent => absent.elim⟩
        · trivial
      · intro other running number _ isRunning sameLaptop isRequest
        obtain rfl := Option.some.inj isRequest
        exact fresh other running isRunning sameLaptop

theorem step_sound (reads : ReadsAscii platform) {site : Site platform} {action : Action Key}
    (sound : site.Sound) (proper : Proper signingKey honest site action) :
    (step int serviceUid site action).Sound := by
  cases action with
  | network act => exact sound.onNetwork reads proper
  | start helper laptop user expectedUid =>
      simp only [step]
      split
      · exact sound
      · refine sound.setHelper ?_ ?_
        · rfl
        · exact fun _ _ _ _ _ _ absent => nomatch absent
  | connected helper server =>
      simp only [step]
      split
      next current found =>
        split
        next waits => exact sound.connected proper found waits
        · exact sound
      · exact sound
  | sent helper raises =>
      simp only [step]
      split
      next current found =>
        exact sound.setPlace found (sound_sent (sound.helpers helper current found) raises)
      · exact sound
  | received helper chunk =>
      simp only [step]
      split
      next current found =>
        split
        next delivers =>
          exact sound.setPlace found
            (sound_received (sound.helpers helper current found) delivers)
        · exact sound
      · exact sound

end Step

/-! ## Runs -/

/-- The actions on the network. -/
def networkAction : Action Key → Option (Client.Action Key)
  | .network action => some action
  | _ => none

section Runs

variable {int : Json → Except PyExc ℤ} {serviceUid : ℕ → ℤ} {setups : ℕ → Listener.Setup}
  {signingKey : ℕ → Key} {honest : Key → Prop} {actions : List (Action Key)}

theorem network_step (site : Site platform) (action : Action Key) (act : Client.Action Key)
    (isAct : networkAction action = some act) :
    (step int serviceUid site action).network = Client.step int site.network act := by
  cases action with
  | network other =>
      obtain rfl := Option.some.inj isAct
      rfl
  | _ => contradiction

theorem network_step_of_none (site : Site platform) (action : Action Key)
    (isNone : networkAction action = none) :
    (step int serviceUid site action).network = site.network := by
  cases action with
  | network other => contradiction
  | start helper laptop user expectedUid =>
      simp only [step]
      split <;> rfl
  | connected helper server =>
      simp only [step]
      split
      · split <;> rfl
      · rfl
  | sent helper raises =>
      simp only [step]
      split <;> rfl
  | received helper chunk =>
      simp only [step]
      split
      · split <;> rfl
      · rfl

/-- The network runs by itself. -/
theorem after_network (platform : Listener.Platform Key) (int : Json → Except PyExc ℤ)
    (serviceUid : ℕ → ℤ) (setups : ℕ → Listener.Setup) (actions : List (Action Key)) :
    (Site.after platform int serviceUid setups actions).network =
      Client.Network.after platform int setups (actions.filterMap networkAction) :=
  part_run network_step network_step_of_none _ actions

theorem after_trusted
    (proper : Along (step int serviceUid) (Proper signingKey honest)
      (Site.start platform setups) actions) :
    Along (Client.step int) (Client.Trusted signingKey honest)
      (Client.Network.start platform setups) (actions.filterMap networkAction) := by
  refine part_along network_step network_step_of_none ?_ proper
  intro site action act isAct proper
  cases action with
  | network other =>
      obtain rfl := Option.some.inj isAct
      exact proper.trusted other rfl
  | _ => contradiction

theorem after_sound (reads : ReadsAscii platform)
    (proper : Along (step int serviceUid) (Proper signingKey honest)
      (Site.start platform setups) actions) :
    (Site.after platform int serviceUid setups actions).Sound := by
  have keeps : ∀ (site : Site platform) (action : Action Key), site.Sound →
      Proper signingKey honest site action → (step int serviceUid site action).Sound :=
    fun site action sound proper => step_sound reads sound proper
  refine run_invariant_along keeps ⟨?_, ?_, ?_⟩ proper
  · exact fun laptop => Listener.after_unserved platform (setups laptop) []
  · exact fun first second one two request isOne => by contradiction
  · exact fun helper current found => by contradiction

end Runs

/-! ## Logins -/

/-- A helper has said yes. -/
structure LetIn (site : Site platform) (helper : ℕ) (current : Helper) : Prop where
  found : site.helpers helper = some current
  granted : current.place = .done true

/-- The laptop a helper runs on. -/
def Site.laptopOf (site : Site platform) (helper : ℕ) : ℕ :=
  ((site.helpers helper).map Helper.laptop).getD 0

theorem LetIn.laptopOf {site : Site platform} {helper : ℕ} {current : Helper}
    (letIn : LetIn site helper current) : site.laptopOf helper = current.laptop := by
  simp only [Site.laptopOf, letIn.found, Option.map_some, Option.getD_some]

/-- The grant behind a login: it was issued at the laptop, and taken in time by the request of
the helper, for the user it has asked for, who is the one a configuration of the laptop
names. -/
structure Behind (setups : ℕ → Listener.Setup) (site : Site platform) (current : Helper)
    (position session : ℕ) (grant : Listener.Grant) : Prop where
  issued : (site.network.history current.laptop)[position]? = some (.grant session grant)
  taken : ∃ (request : ℕ) (taking : Listener.Taking) (ttl : ℚ), current.request = some request ∧
    .taken request taking ∈ site.network.history current.laptop ∧
    Listener.UnlockService.number (openConfig (setups current.laptop).access
      (setups current.laptop).file).2.config.data "grant_ttl" = some ttl ∧
    grant.time ≤ taking.time ∧ taking.time - grant.time < ttl ∧
      taking.request = requested current.user ∧ Listener.Cleared taking
  user : ∃ data ∈ (site.network.laptops current.laptop).loaded,
    Listener.item data "unlock_user" = .ok (.str current.user.joinPairs)

/-- The user a request names is the one of the configuration it is checked in. -/
theorem unlockUser_of_matches {user : PyStr} {data : Dict}
    (same : Listener.userMatches (requested user) data = .ok true) :
    Listener.item data "unlock_user" = .ok (.str user.joinPairs) := by
  unfold Listener.userMatches at same
  obtain ⟨value, isValue, equal⟩ := bind_eq_ok.mp same
  rw [isValue]
  have named : lookup (py "user") (requested user) = some (.str user.joinPairs) := by
    simp [requested, lookup]
  rw [named] at equal
  have pyEqual : (Json.str user.joinPairs).pyEq value = true := Except.ok.inj equal
  simp only [Json.pyEq, Json.sameElement, Bool.and_eq_true, decide_eq_true_iff] at pyEqual
  rw [pyEqual.2]

section Logins

variable {int : Json → Except PyExc ℤ} {serviceUid : ℕ → ℤ} {setups : ℕ → Listener.Setup}
  {signingKey : ℕ → Key} {honest : Key → Prop} {actions : List (Action Key)}

/-- Where the replies `1` of a laptop come from. -/
theorem replies_origin (platform : Listener.Platform Key) (int : Json → Except PyExc ℤ)
    (serviceUid : ℕ → ℤ) (setups : ℕ → Listener.Setup) (actions : List (Action Key))
    (laptop : ℕ) :
    ∃ ttl, Listener.UnlockService.number (openConfig (setups laptop).access
        (setups laptop).file).2.config.data "grant_ttl" = some ttl ∧
      Listener.Redeemed ttl
        ((Site.after platform int serviceUid setups actions).network.laptops laptop).loaded
        ((Site.after platform int serviceUid setups actions).network.laptops laptop).service := by
  obtain ⟨_, _, _, ttl, isTtl, _⟩ := (setups laptop).service_eq
  refine ⟨ttl, isTtl, ?_⟩
  rw [after_network, Client.after_laptops]
  exact Listener.after_redeemed platform (setups laptop) _ isTtl

/-- The reply at a position of the history is the one to a helper, for its user. -/
def RepliedAt (network : Client.Network platform) (current : Helper) (position : ℕ) : Prop :=
  ∃ (request : ℕ) (taking : Listener.Taking), current.request = some request ∧
    (network.history current.laptop)[position]? = some (.granted request taking) ∧
      taking.request = requested current.user

theorem LetIn.reply {site : Site platform} (sound : site.Sound) {helper : ℕ} {current : Helper}
    (letIn : LetIn site helper current) :
    ∃ position, RepliedAt site.network current position := by
  have isSound := sound.helpers helper current letIn.found
  unfold Helper.Sound at isSound
  rw [letIn.granted] at isSound
  obtain ⟨request, taking, isRequest, isGranted, isUser⟩ := isSound
  obtain ⟨position, found⟩ := List.mem_iff_getElem?.mp isGranted
  exact ⟨position, request, taking, isRequest, found, isUser⟩

/-- Behind each login is a grant, and behind two logins at one laptop are two. -/
theorem logins_granted (reads : ReadsAscii platform)
    (proper : Along (step int serviceUid) (Proper signingKey honest)
      (Site.start platform setups) actions) :
    ∃ grantOf : ℕ → ℕ,
      (∀ helper current, LetIn (Site.after platform int serviceUid setups actions) helper current →
        ∃ session grant, Behind setups (Site.after platform int serviceUid setups actions) current
          (grantOf helper) session grant) ∧
      ∀ first second one two,
        LetIn (Site.after platform int serviceUid setups actions) first one →
        LetIn (Site.after platform int serviceUid setups actions) second two →
          one.laptop = two.laptop → grantOf first = grantOf second → first = second := by
  have sound := after_sound reads proper
  have origins := fun laptop => replies_origin platform int serviceUid setups actions laptop
  generalize Site.after platform int serviceUid setups actions = site at sound origins ⊢
  choose ttl isTtl redeemed using origins
  choose originOf isOrigin injective using fun laptop => (redeemed laptop).origin
  have replies : ∀ helper, ∃ position, ∀ current, LetIn site helper current →
      RepliedAt site.network current position := by
    intro helper
    by_cases isIn : ∃ current, LetIn site helper current
    · obtain ⟨current, letIn⟩ := isIn
      obtain ⟨position, reply⟩ := letIn.reply sound
      refine ⟨position, fun other otherIn => ?_⟩
      obtain rfl := Option.some.inj (letIn.found.symm.trans otherIn.found)
      exact reply
    · exact ⟨0, fun current letIn => (isIn ⟨current, letIn⟩).elim⟩
  choose replyOf isReply using replies
  refine ⟨fun helper => originOf (site.laptopOf helper) (replyOf helper), ?_, ?_⟩
  · intro helper current letIn
    obtain ⟨request, taking, isRequest, found, isUser⟩ := isReply helper current letIn
    obtain ⟨_, taken, session, grant, issued, order, inTime, cleared, dated⟩ :=
      isOrigin current.laptop (replyOf helper) request taking found
    refine ⟨session, grant, ?_, ?_, ?_⟩
    · simp only [letIn.laptopOf]
      exact issued
    · exact ⟨request, taking, ttl current.laptop, isRequest, taken, isTtl current.laptop, order,
        inTime, isUser, cleared⟩
    · refine ⟨taking.userData, dated (by simp [Listener.Taking.datas]), ?_⟩
      exact unlockUser_of_matches (isUser ▸ cleared.user)
  · intro first second one two firstIn secondIn sameLaptop same
    obtain ⟨firstRequest, firstTaking, isFirst, firstFound, _⟩ := isReply first one firstIn
    obtain ⟨secondRequest, secondTaking, isSecond, secondFound, _⟩ := isReply second two secondIn
    simp only [firstIn.laptopOf, secondIn.laptopOf, ← sameLaptop] at same
    rw [← sameLaptop] at secondFound
    have samePosition := injective one.laptop _ _ _ _ _ _ firstFound secondFound same
    rw [samePosition, secondFound, Option.some.injEq, Listener.Event.granted.injEq] at firstFound
    exact sound.distinct first second one two _ firstIn.found secondIn.found sameLaptop isFirst
      (firstFound.1 ▸ isSecond)

/-- A run of the client has accepted the challenge of a grant whose key is in trust. -/
theorem Behind.agreed (inTrust : ∀ laptop, honest (signingKey laptop))
    (proper : Along (step int serviceUid) (Proper signingKey honest)
      (Site.start platform setups) actions)
    (distinct : (Site.after platform int serviceUid setups actions).network.NoncesDistinct)
    {current : Helper} {position session : ℕ} {grant : Listener.Grant}
    (behind : Behind setups (Site.after platform int serviceUid setups actions) current position
      session grant)
    (isHonest : Client.HonestDevice platform honest grant) :
    ∃ run, Client.Agrees signingKey int
      (Site.after platform int serviceUid setups actions).network run current.laptop grant := by
  have issued := behind.issued
  rw [after_network] at issued distinct ⊢
  obtain ⟨before, label, rest, split, moment⟩ := Client.grant_issued distinct issued
  have trusted := after_trusted proper
  obtain ⟨run, agrees⟩ := moment.agrees inTrust trusted distinct split issued isHonest
  refine ⟨run, ?_⟩
  rw [split]
  exact agrees.mono (Client.after_extends platform int setups before _)

/-- Behind every login is a grant that was issued at the laptop and taken in time for the user
who logs in, and where the key of its device is in trust, a run of the client that has accepted
the challenge this grant is for; no grant and no run is behind two logins. -/
theorem logins_backed (platform : Listener.Platform Key) (int : Json → Except PyExc ℤ)
    (serviceUid : ℕ → ℤ) (setups : ℕ → Listener.Setup) (signingKey : ℕ → Key)
    (honest : Key → Prop) (actions : List (Action Key)) (reads : ReadsAscii platform)
    (inTrust : ∀ laptop, honest (signingKey laptop))
    (proper : Along (step int serviceUid) (Proper signingKey honest)
      (Site.start platform setups) actions)
    (distinct : (Site.after platform int serviceUid setups actions).network.NoncesDistinct) :
    ∃ grantOf runOf : ℕ → ℕ,
      (∀ helper current, LetIn (Site.after platform int serviceUid setups actions) helper current →
        ∃ session grant, Behind setups (Site.after platform int serviceUid setups actions) current
            (grantOf helper) session grant ∧
          (Client.HonestDevice platform honest grant →
            Client.Agrees signingKey int
              (Site.after platform int serviceUid setups actions).network (runOf helper)
              current.laptop grant)) ∧
      (∀ first second one two,
        LetIn (Site.after platform int serviceUid setups actions) first one →
        LetIn (Site.after platform int serviceUid setups actions) second two →
          one.laptop = two.laptop → grantOf first = grantOf second → first = second) ∧
      ∀ first second one two firstSession secondSession firstGrant secondGrant,
        LetIn (Site.after platform int serviceUid setups actions) first one →
        LetIn (Site.after platform int serviceUid setups actions) second two →
        Behind setups (Site.after platform int serviceUid setups actions) one (grantOf first)
          firstSession firstGrant →
        Behind setups (Site.after platform int serviceUid setups actions) two (grantOf second)
          secondSession secondGrant →
        Client.HonestDevice platform honest firstGrant →
        Client.HonestDevice platform honest secondGrant →
          runOf first = runOf second → first = second := by
  obtain ⟨grantOf, isBehind, injective⟩ := logins_granted reads proper
  have runs : ∀ helper, ∃ run, ∀ current session grant,
      LetIn (Site.after platform int serviceUid setups actions) helper current →
      Behind setups (Site.after platform int serviceUid setups actions) current (grantOf helper)
        session grant → Client.HonestDevice platform honest grant →
          Client.Agrees signingKey int
            (Site.after platform int serviceUid setups actions).network run current.laptop
            grant := by
    intro helper
    by_cases isIn : ∃ current session grant,
        LetIn (Site.after platform int serviceUid setups actions) helper current ∧
        Behind setups (Site.after platform int serviceUid setups actions) current
          (grantOf helper) session grant ∧ Client.HonestDevice platform honest grant
    · obtain ⟨current, session, grant, letIn, behind, isHonest⟩ := isIn
      obtain ⟨run, agrees⟩ := behind.agreed inTrust proper distinct isHonest
      refine ⟨run, fun other otherSession otherGrant otherIn otherBehind _ => ?_⟩
      obtain rfl := Option.some.inj (letIn.found.symm.trans otherIn.found)
      have same := otherBehind.issued.symm.trans behind.issued
      rw [Option.some.injEq, Listener.Event.grant.injEq] at same
      obtain ⟨rfl, rfl⟩ := same
      exact agrees
    · refine ⟨0, fun current session grant letIn behind isHonest => ?_⟩
      exact (isIn ⟨current, session, grant, letIn, behind, isHonest⟩).elim
  choose runOf agreement using runs
  refine ⟨grantOf, runOf, ?_, injective, ?_⟩
  · intro helper current letIn
    obtain ⟨session, grant, behind⟩ := isBehind helper current letIn
    exact ⟨session, grant, behind, agreement helper current session grant letIn behind⟩
  · intro first second one two firstSession secondSession firstGrant secondGrant firstIn secondIn
      firstBehind secondBehind firstHonest secondHonest same
    have firstAgrees := agreement first one firstSession firstGrant firstIn firstBehind firstHonest
    have secondAgrees := agreement second two secondSession secondGrant secondIn secondBehind
      secondHonest
    have sameNonce := firstAgrees.nonce (same ▸ secondAgrees)
    have firstIssued := firstBehind.issued
    have secondIssued := secondBehind.issued
    rw [after_network] at firstIssued secondIssued distinct
    obtain ⟨sameLaptop, samePosition⟩ :=
      Client.grants_unique distinct firstIssued secondIssued sameNonce
    exact injective first second one two firstIn secondIn sameLaptop samePosition

end Logins

/-! ## A login -/

/-- `json.loads` of bytes in UTF-8. -/
def readUtf8 (raw : Bytes) : Except PyExc Json :=
  match Utf8State.run .start raw with
  | some (.start, text) =>
      match Json.loads text with
      | some value => .ok value
      | none => .error .jsonDecodeError
  | _ => .error .unicodeDecodeError

/-- A platform like that of a laptop and a phone, on which bytes can be read. -/
def loginPlatform : Listener.Platform Bool :=
  { Client.pairedPlatform with loadsBytes := readUtf8 }

theorem readsAscii_loginPlatform : ReadsAscii loginPlatform := by
  intro text members _ loaded _
  simp only [loginPlatform, readUtf8, run_encode, loaded]

/-- A helper that asks and waits. -/
def helperWaits : List (Action Bool) :=
  [.start 0 0 (py "alice") 990, .connected 0 (.ok (.listener 0)), .sent 0 none,
    .network (.laptop 0 (.pamConnect 0 (.ok ⟨1, 0⟩) Listener.calmAnswers)),
    .network (.laptop 0 (.pamResume 0 (.line (requestLine (py "alice"))) Listener.calmAnswers))]

/-- The phone unlocks, and the helper gets its reply in two pieces. -/
def unlocks : List (Action Bool) :=
  (Listener.openSession 0).map (fun label => .network (.laptop 0 label)) ++
    [.network (.laptop 0 (.resume 0 (.text Listener.sampleResponse) Listener.calmAnswers)),
      .network (.laptop 0 (.pamResume 0 .woken Listener.calmAnswers)),
      .received 0 (.ok [0x31]), .received 0 (.ok [0x0A])]

/-- The site after actions on which the listeners run as user 990. -/
def loginSite (actions : List (Action Bool)) : Site loginPlatform :=
  .after loginPlatform Client.readInt (fun _ => 990) (fun _ => Listener.sampleSetup) actions

theorem letIn_loginSite : ((loginSite (helperWaits ++ unlocks)).helpers 0).map
    (fun current => (current.place, current.laptop)) = some (.done true, 0) := by
  decide +kernel

/-- The laptops of the login. -/
theorem history_loginSite (laptop : ℕ) :
    (loginSite (helperWaits ++ unlocks)).network.history laptop =
      (Listener.World.after loginPlatform Listener.sampleSetup
        (Client.labelsOf laptop ((helperWaits ++ unlocks).filterMap networkAction))
          ).service.history := by
  rw [loginSite, Client.Network.history, after_network, Client.after_laptops]

/-- One challenge is sent in it. -/
theorem opened_loginSite {laptop position : ℕ} {nonce : PyStr} {entry : Listener.Pending}
    (found : ((loginSite (helperWaits ++ unlocks)).network.history laptop)[position]? =
      some (.challenge nonce entry)) : laptop = 0 ∧ position = 0 := by
  rw [history_loginSite] at found
  by_cases own : laptop = 0
  · subst own
    have shown : (Listener.World.after loginPlatform Listener.sampleSetup
        (Client.labelsOf 0 ((helperWaits ++ unlocks).filterMap networkAction))
          ).service.history.map (fun event => (Client.shownEvent event).2.1.isSome) =
        [true, false, false, false, false, false] := by
      decide +kernel
    have isChallenge := congrArg
      (Option.map fun event => (Client.shownEvent event).2.1.isSome) found
    rw [← List.getElem?_map, shown] at isChallenge
    clear found shown
    refine ⟨rfl, ?_⟩
    match position with
    | 0 => rfl
    | position + 1 =>
        rw [List.getElem?_cons_succ] at isChallenge
        have isFalse := List.mem_of_getElem? isChallenge
        simp [Client.shownEvent] at isFalse
  · have silent : Client.labelsOf laptop ((helperWaits ++ unlocks).filterMap networkAction) = []
        := by
      rw [Client.labelsOf, List.filterMap_eq_nil_iff]
      intro act membership
      simp only [helperWaits, unlocks, networkAction, Listener.openSession, List.map_cons,
        List.map_nil, List.cons_append, List.nil_append, List.filterMap_cons, List.filterMap_nil,
        List.mem_cons, List.not_mem_nil, or_false] at membership
      rcases membership with rfl | rfl | rfl | rfl | rfl | rfl | rfl <;>
        exact if_neg (Ne.symm own)
    rw [silent] at found
    exact absurd (List.mem_of_getElem? found) List.not_mem_nil

theorem distinct_loginSite :
    (loginSite (helperWaits ++ unlocks)).network.NoncesDistinct := by
  intro one two onePosition twoPosition nonce oneEntry twoEntry oneFound twoFound
  obtain ⟨rfl, rfl⟩ := opened_loginSite oneFound
  obtain ⟨rfl, rfl⟩ := opened_loginSite twoFound
  exact ⟨rfl, rfl⟩

/-- The signature of the response is none under the key of the laptop. -/
theorem unverified_response {message : Bytes}
    (verified : verifySig loginPlatform.crypto false message
      (.laptop 0 (.resume 0 (.text Listener.sampleResponse) Listener.calmAnswers) :
        Client.Action Bool).signature = true) : False := by
  rw [Client.signature_sampleResponse] at verified
  obtain ⟨_, wrong, _⟩ | ⟨isTrue, _⟩ :=
    Client.verified_paired (by decide : fromHex (py "01") = some [1]) verified
  · contradiction
  · contradiction

/-- A helper that is started is for the user. -/
def Action.StartsFor (user : PyStr) : Action Key → Prop
  | .start _ _ other _ => other = user
  | _ => True

/-- All helpers are for the user. -/
def Site.AllFor (user : PyStr) (site : Site platform) : Prop :=
  ∀ helper current, site.helpers helper = some current → current.user = user

theorem Site.AllFor.setHelper {site : Site platform} {user : PyStr} (all : site.AllFor user)
    {next : Helper} (isUser : next.user = user) (helper : ℕ) :
    (site.setHelper helper next).AllFor user := by
  intro other current found
  rw [Site.helpers_setHelper] at found
  split at found
  · exact Option.some.inj found ▸ isUser
  · exact all other current found

theorem Site.AllFor.step {int : Json → Except PyExc ℤ} {serviceUid : ℕ → ℤ}
    {site : Site platform} {user : PyStr} (all : site.AllFor user) {action : Action Key}
    (starts : action.StartsFor user) : (step int serviceUid site action).AllFor user := by
  cases action with
  | network act => exact all
  | start helper laptop other expectedUid =>
      simp only [PamHelper.step]
      split
      · exact all
      · apply all.setHelper
        exact starts
  | connected helper server =>
      simp only [PamHelper.step]
      split
      next current found =>
        have isUser := all helper current found
        split
        · refine all.setHelper ?_ helper
          match server with
          | .ok (.listener request) => exact isUser
          | .ok (.other uid) => exact isUser
          | .error exc => exact isUser
        · exact all
      · exact all
  | sent helper raises =>
      simp only [PamHelper.step]
      split
      next current found =>
        apply all.setHelper
        exact all helper current found
      · exact all
  | received helper chunk =>
      simp only [PamHelper.step]
      split
      next current found =>
        split
        · apply all.setHelper
          exact all helper current found
        · exact all
      · exact all

/-- What the keys of the laptops are trusted for. -/
abbrev LoginProper (site : Site loginPlatform) (action : Action Bool) : Prop :=
  Proper (fun _ => false) (fun key => key = false) site action

/-- A step of the laptop with no signature of its own and no line of a helper. -/
theorem proper_label {site : Site loginPlatform} {label : Listener.Label}
    (unverified : ∀ message, verifySig loginPlatform.crypto false message
      (.laptop 0 label : Client.Action Bool).signature = true → False)
    (noLine : ∀ request raw answers, label ≠ .pamResume request (.line raw) answers) :
    LoginProper site (.network (.laptop 0 label)) where
  trusted act isAct := by
    obtain rfl := Action.network.inj isAct
    refine ⟨?_, fun run arguments starts => by contradiction⟩
    rintro key message rfl verified
    exact (unverified message verified).elim
  served helper request current isConnected := by contradiction
  exclusive helper uid current isConnected := by contradiction
  line laptop request raw answers isLine := by
    obtain ⟨_, isLabel⟩ := Client.Action.laptop.inj (Action.network.inj isLine)
    exact (noLine request raw answers isLabel).elim

theorem proper_unsigned {site : Site loginPlatform} {label : Listener.Label}
    (unsigned : (.laptop 0 label : Client.Action Bool).signature = none)
    (noLine : ∀ request raw answers, label ≠ .pamResume request (.line raw) answers) :
    LoginProper site (.network (.laptop 0 label)) := by
  refine proper_label (fun message verified => ?_) noLine
  rw [unsigned] at verified
  contradiction

theorem proper_helperWaits :
    Along (step Client.readInt fun _ => 990) LoginProper
      (Site.start loginPlatform fun _ => Listener.sampleSetup) helperWaits := by
  refine ⟨⟨?_, ?_, ?_, ?_⟩, ⟨?_, ?_, ?_, ?_⟩, ⟨?_, ?_, ?_, ?_⟩, proper_unsigned rfl (by simp),
    ⟨?_, ?_, ?_, ?_⟩, trivial⟩
  case refine_6 =>
    rintro helper request current ⟨⟩ found
    obtain rfl := Option.some.inj found
    refine ⟨rfl, fun other running isRunning _ => ?_⟩
    simp only [step, Site.start, Site.setHelper, Function.update_apply] at isRunning
    split at isRunning
    · obtain rfl := Option.some.inj isRunning
      exact nofun
    · contradiction
  case refine_13 =>
    rintro act ⟨⟩
    exact Client.trusted_of_unsigned rfl (by simp)
  case refine_16 =>
    rintro laptop request raw answers ⟨⟩ helper current found _ _
    right
    have users : ∀ (site : Site loginPlatform) (action : Action Bool),
        site.AllFor (py "alice") → action.StartsFor (py "alice") →
          (step Client.readInt (fun _ => 990) site action).AllFor (py "alice") :=
      fun site action all starts => all.step starts
    have nobody : (Site.start loginPlatform fun _ => Listener.sampleSetup).AllFor (py "alice") :=
      fun helper current found => by contradiction
    have starts : Along (step Client.readInt fun _ => 990)
        (fun _ action => action.StartsFor (py "alice"))
        (Site.start loginPlatform fun _ => Listener.sampleSetup) (helperWaits.take 4) :=
      ⟨rfl, trivial, trivial, trivial, trivial⟩
    rw [run_invariant_along users nobody starts helper current found]
  case refine_7 =>
    rintro helper uid current ⟨⟩
  all_goals intros; contradiction

theorem proper_unlocks :
    Along (step Client.readInt fun _ => 990) LoginProper (loginSite helperWaits) unlocks := by
  refine ⟨proper_unsigned rfl (by simp), proper_unsigned ?_ (by simp),
    proper_unsigned rfl (by simp), proper_label (fun _ => unverified_response) (by simp),
    proper_unsigned rfl (by simp), ⟨?_, ?_, ?_, ?_⟩, ⟨?_, ?_, ?_, ?_⟩, trivial⟩
  · exact Option.isNone_iff_eq_none.mp (by decide +kernel)
  all_goals intros; contradiction

/-- Behind the login is a grant for alice. -/
theorem logins_backed_loginSite :
    ∃ current position session grant,
      LetIn (loginSite (helperWaits ++ unlocks)) 0 current ∧
        Behind (fun _ => Listener.sampleSetup) (loginSite (helperWaits ++ unlocks)) current
          position session grant := by
  have proper : Along (step Client.readInt fun _ => 990) LoginProper
      (Site.start loginPlatform fun _ => Listener.sampleSetup) (helperWaits ++ unlocks) :=
    Along.append.mpr ⟨proper_helperWaits, proper_unlocks⟩
  obtain ⟨grantOf, _, behind, _⟩ := logins_backed loginPlatform Client.readInt (fun _ => 990)
    (fun _ => Listener.sampleSetup) (fun _ => false) (fun key => key = false)
    (helperWaits ++ unlocks) readsAscii_loginPlatform (fun _ => rfl) proper distinct_loginSite
  obtain ⟨current, found, same⟩ := Option.map_eq_some_iff.mp letIn_loginSite
  have letIn : LetIn (loginSite (helperWaits ++ unlocks)) 0 current :=
    ⟨found, congrArg Prod.fst same⟩
  obtain ⟨session, grant, isBehind, _⟩ := behind 0 current letIn
  exact ⟨current, grantOf 0, session, grant, letIn, isBehind⟩

end RemoteUnlock.PamHelper
