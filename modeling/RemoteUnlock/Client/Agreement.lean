import Mathlib.Data.List.Induction
import RemoteUnlock.Client.Network

/-!
# The client and the listener agree

A signature that verifies under a key in trust was made with it by the party that holds it.
The response behind a grant was therefore signed by a run of the client, which had verified
a challenge signed by a laptop; and because this laptop made the nonce pending, it is the one
that issues the grant (`grants_agree`).
-/

namespace RemoteUnlock.Client

open Python Python.Items Common Library

variable {Key : Type} {platform : Listener.Platform Key} {int : Json → Except PyExc ℤ}

/-! ## Who has signed what -/

section Signatures

variable (signingKey : ℕ → Key) (honest : Key → Prop)

/-- A laptop or a run of the client has signed a message with a key. -/
inductive Made (network : Network platform) (key : Key) (message : Bytes) : Prop where
  | laptop (laptop : ℕ) (own : signingKey laptop = key)
      (signed : .signed message ∈ network.history laptop) : Made network key message
  | client (run : ℕ) (current : Run Key) (answer : Answer)
      (found : network.clients run = some current) (own : current.arguments.deviceKey = key)
      (answered : current.answered = some answer) (signed : answer.response = message) :
      Made network key message

/-- Wherever a signature verifies under a key in trust, it was made with this key. -/
def Genuine (network : Network platform) (signature : Option Json) : Prop :=
  ∀ key message, honest key → verifySig platform.crypto key message signature = true →
    Made signingKey network key message

/-- The signature in a message that is delivered. -/
def Action.signature : Action Key → Option Json
  | .laptop _ (.resume _ awaited _) =>
      match Listener.received awaited with
      | some (.ok response) => lookup (py "signature") response
      | _ => none
  | .received _ (.ok (.obj members)) => lookup (py "server_sig") members
  | _ => none

/-- What is assumed of a step: the signature that is delivered is no forgery, and a device
is used with the signing key of a laptop. -/
structure Trusted (network : Network platform) (action : Action Key) : Prop where
  genuine : Genuine signingKey honest network action.signature
  pinned : ∀ run arguments, action = .start run arguments → honest arguments.deviceKey →
    ∃ laptop, arguments.laptopPub = signingKey laptop

/-- What holds of the keys and of what was signed with them. -/
structure Faithful (int : Json → Except PyExc ℤ) (network : Network platform) : Prop where
  signs : ∀ laptop, Listener.Signs (network.history laptop)
  answers : ∀ run current made, network.clients run = some current →
    current.answered = some made →
      (∃ issuedMs, Answers platform.crypto int current.arguments made issuedMs) ∧
        (honest current.arguments.laptopPub →
          Made signingKey network current.arguments.laptopPub made.challenge)
  pinned : ∀ run current, network.clients run = some current →
    honest current.arguments.deviceKey →
      ∃ laptop, current.arguments.laptopPub = signingKey laptop

end Signatures

variable {signingKey : ℕ → Key} {honest : Key → Prop}

theorem Made.mono {before after : Network platform} (later : before.Extends after) {key : Key}
    {message : Bytes} (made : Made signingKey before key message) :
    Made signingKey after key message := by
  cases made with
  | laptop laptop own signed => exact .laptop laptop own ((later.laptops laptop).subset signed)
  | client run current answer found own answered signed =>
      obtain ⟨grown, isGrown, keeps⟩ := later.clients run current found
      exact .client run grown answer isGrown (keeps.arguments ▸ own)
        (keeps.answered answer answered) signed

theorem signs_step {network : Network platform} {laptop : ℕ}
    (signs : Listener.Signs (network.history laptop)) (action : Action Key) :
    Listener.Signs ((step int network action).history laptop) := by
  cases action with
  | laptop acting label =>
      by_cases same : laptop = acting
      · subst same
        simpa [Network.history, step] using
          (Listener.step_cases (network.laptops laptop) label).signs signs
      · simpa [Network.history, step, same] using signs
  | start run arguments =>
      simp only [step]
      split <;> exact signs
  | received run message => exact signs
  | sent run raises => exact signs

theorem step_faithful {network : Network platform} {action : Action Key}
    (fresh : network.AllFresh) (faithful : Faithful signingKey honest int network)
    (trusted : Trusted signingKey honest network action) :
    Faithful signingKey honest int (step int network action) := by
  have later : network.Extends (step int network action) := step_extends fresh action
  refine ⟨fun laptop => signs_step (faithful.signs laptop) action, ?_, ?_⟩
  · intro run current made found answered
    cases step_client found with
    | started arguments starts same =>
        rw [same] at answered
        contradiction
    | kept old isOld arguments same =>
        obtain ⟨answers, signed⟩ := faithful.answers run old made isOld (same ▸ answered)
        rw [arguments]
        exact ⟨answers, fun isHonest => (signed isHonest).mono later⟩
    | answers old challenge own isOld receives arguments isAnswer fresh =>
        rw [fresh, Option.some.injEq] at answered
        subst answered
        obtain ⟨⟨issuedMs, answers⟩, members, rfl, signature⟩ := answer_eq_ok isAnswer
        refine ⟨⟨issuedMs, answers⟩, fun isHonest => Made.mono later ?_⟩
        have verified := answers.verified
        rw [signature] at verified
        apply trusted.genuine _ _ isHonest
        rw [receives]
        exact verified
  · intro run current found isHonest
    cases step_client found with
    | started arguments starts same =>
        subst same
        exact trusted.pinned run arguments starts isHonest
    | kept old isOld arguments same =>
        rw [arguments] at isHonest ⊢
        exact faithful.pinned run old isOld isHonest
    | answers old challenge own isOld receives arguments isAnswer fresh =>
        rw [arguments] at isHonest ⊢
        exact faithful.pinned run old isOld isHonest

theorem after_faithful {setups : ℕ → Listener.Setup} {actions : List (Action Key)}
    (trusted : Along (step int) (Trusted signingKey honest) (Network.start platform setups)
      actions) : Faithful signingKey honest int (Network.after platform int setups actions) := by
  have keeps : ∀ (network : Network platform) (action : Action Key),
      network.AllFresh ∧ Faithful signingKey honest int network →
      Trusted signingKey honest network action →
      (step int network action).AllFresh ∧
        Faithful signingKey honest int (step int network action) :=
    fun network action holds trusted =>
      ⟨step_allFresh holds.1 action, step_faithful holds.1 holds.2 trusted⟩
  have start : (Network.start platform setups).AllFresh ∧
      Faithful signingKey honest int (Network.start platform setups) := by
    refine ⟨fun run current found => by contradiction, ?_,
      fun run current made found => by contradiction, fun run current found => by contradiction⟩
    intro laptop message signed
    obtain ⟨_, _, _, _, _, same⟩ := (setups laptop).service_eq
    simp [Network.history, Network.start, Listener.World.start, same] at signed
  exact (run_invariant_along keeps start trusted).2

/-! ## Which party has signed a message -/

theorem role_ne : py "challenge" ≠ py "response" := by decide

/-- A challenge was signed by a laptop that made its nonce pending. -/
theorem Made.challenge {network : Network platform}
    (faithful : Faithful signingKey honest int network) {key : Key} {nonce : PyStr}
    {issuedMs : ℤ} {deviceId targetId : PyStr} {message : Bytes}
    (made : Made signingKey network key message)
    (built : signedMessage (py "challenge") nonce issuedMs deviceId targetId = .ok message) :
    ∃ laptop entry, signingKey laptop = key ∧ .challenge nonce entry ∈ network.history laptop := by
  cases made with
  | laptop laptop own signed =>
      obtain ⟨other, entry, target, opened, same⟩ := faithful.signs laptop message signed
      obtain ⟨_, rfl, _⟩ := signedMessage_injective built same
      exact ⟨laptop, entry, own, opened⟩
  | client run current answer found own answered signed =>
      obtain ⟨⟨milliseconds, answers⟩, _⟩ := faithful.answers run current answer found answered
      subst signed
      exact (role_ne (signedMessage_injective built answers.response).1).elim

/-- A response was signed by a run of the client, for a challenge with the same fields. -/
theorem Made.response {network : Network platform}
    (faithful : Faithful signingKey honest int network) {key : Key} {nonce : PyStr}
    {issuedMs : ℤ} {deviceId targetId : PyStr} {message : Bytes}
    (made : Made signingKey network key message)
    (built : signedMessage (py "response") nonce issuedMs deviceId targetId = .ok message) :
    ∃ run current answer, network.clients run = some current ∧
      current.arguments.deviceKey = key ∧ current.answered = some answer ∧
      answer.nonce = nonce ∧ current.arguments.deviceId = deviceId ∧
      current.arguments.targetId = targetId ∧
      Answers platform.crypto int current.arguments answer issuedMs := by
  cases made with
  | laptop laptop own signed =>
      obtain ⟨_, _, _, _, same⟩ := faithful.signs laptop message signed
      exact (role_ne (signedMessage_injective same built).1).elim
  | client run current answer found own answered signed =>
      obtain ⟨⟨milliseconds, answers⟩, _⟩ := faithful.answers run current answer found answered
      subst signed
      obtain ⟨_, rfl, rfl, rfl, rfl⟩ := signedMessage_injective built answers.response
      exact ⟨run, current, answer, found, own, answered, rfl, rfl, rfl, answers⟩

/-! ## Agreement -/

/-- The nonces of the challenges are never repeated, at one laptop or at two. -/
def Network.NoncesDistinct (network : Network platform) : Prop :=
  ∀ (first second firstPosition secondPosition : ℕ) (nonce : PyStr)
    (firstEntry secondEntry : Listener.Pending),
    (network.history first)[firstPosition]? = some (Listener.Event.challenge nonce firstEntry) →
    (network.history second)[secondPosition]? = some (Listener.Event.challenge nonce secondEntry) →
    first = second ∧ firstPosition = secondPosition

/-- The key of the device a grant is for is in trust. -/
def HonestDevice (platform : Listener.Platform Key) (honest : Key → Prop)
    (grant : Listener.Grant) : Prop :=
  ∀ pem key, Listener.item grant.identity.device "public_key_pem" = .ok pem →
    Listener.loadKey platform pem = .ok key → honest key

/-- A run of the client has accepted, under the signing key of the laptop, the challenge a
grant is for: with its nonce, its time, its device and the target id of the laptop. -/
structure Agrees (signingKey : ℕ → Key) (int : Json → Except PyExc ℤ)
    (network : Network platform) (run laptop : ℕ) (grant : Listener.Grant) : Prop where
  accepted : ∃ current answer, network.clients run = some current ∧
    current.answered = some answer ∧ answer.nonce = grant.nonce ∧
    current.arguments.deviceId = grant.identity.deviceId ∧
    Listener.item grant.data "target_id" = .ok (.str current.arguments.targetId) ∧
    current.arguments.laptopPub = signingKey laptop ∧
    Answers platform.crypto int current.arguments answer grant.entry.issuedMs

theorem Agrees.mono {before after : Network platform} {run laptop : ℕ}
    {grant : Listener.Grant} (later : before.Extends after)
    (agrees : Agrees signingKey int before run laptop grant) :
    Agrees signingKey int after run laptop grant := by
  obtain ⟨current, answer, found, answered, nonce, device, target, pinned, answers⟩ :=
    agrees.accepted
  obtain ⟨grown, isGrown, keeps⟩ := later.clients run current found
  refine ⟨grown, answer, isGrown, keeps.answered answer answered, nonce, ?_⟩
  rw [keeps.arguments]
  exact ⟨device, target, pinned, answers⟩

/-- A run agrees with the grants of one challenge only. -/
theorem Agrees.nonce {network : Network platform} {run firstLaptop secondLaptop : ℕ}
    {first second : Listener.Grant}
    (firstAgrees : Agrees signingKey int network run firstLaptop first)
    (secondAgrees : Agrees signingKey int network run secondLaptop second) :
    first.nonce = second.nonce := by
  obtain ⟨current, answer, found, answered, nonce, _⟩ := firstAgrees.accepted
  obtain ⟨other, otherAnswer, otherFound, otherAnswered, otherNonce, _⟩ := secondAgrees.accepted
  rw [found, Option.some.injEq] at otherFound
  subst otherFound
  rw [answered, Option.some.injEq] at otherAnswered
  rw [← nonce, ← otherNonce, otherAnswered]

/-- The moment at which a laptop issues a grant. -/
structure IssuedBy (platform : Listener.Platform Key) (int : Json → Except PyExc ℤ)
    (setups : ℕ → Listener.Setup) (before : List (Action Key)) (laptop : ℕ)
    (label : Listener.Label) (position session : ℕ) (grant : Listener.Grant) : Prop where
  unissued : ((Network.after platform int setups before).history laptop).length ≤ position
  granting : Listener.Granting ((Network.after platform int setups before).laptops laptop) label
    session grant

section Run

variable {setups : ℕ → Listener.Setup} {actions : List (Action Key)}

/-- The challenges and grants of a laptop on the network. -/
theorem after_warrants (platform : Listener.Platform Key) (int : Json → Except PyExc ℤ)
    (setups : ℕ → Listener.Setup) (actions : List (Action Key)) (laptop : ℕ) :
    ∃ loaded, Listener.Warrants platform loaded
      ((Network.after platform int setups actions).laptops laptop).service := by
  rw [after_laptops]
  exact ⟨_, (Listener.after_authorised platform (setups laptop) (labelsOf laptop actions)).2⟩

/-- What a grant was issued for, with its challenge. -/
theorem network_grant (distinct : (Network.after platform int setups actions).NoncesDistinct)
    (laptop : ℕ) :
    ∃ origin : ℕ → ℕ, ∃ loaded, ∀ (position session : ℕ) (grant : Listener.Grant),
      ((Network.after platform int setups actions).history laptop)[position]? =
        some (.grant session grant) →
      ((Network.after platform int setups actions).history laptop)[origin position]? =
          some (.challenge grant.nonce grant.entry) ∧
        Listener.Sound platform loaded grant ∧
        ∀ (other otherSession : ℕ) (otherGrant : Listener.Grant),
          ((Network.after platform int setups actions).history laptop)[other]? =
            some (.grant otherSession otherGrant) →
          otherGrant.nonce = grant.nonce → other = position := by
  obtain ⟨loaded, warrants⟩ := after_warrants platform int setups actions laptop
  obtain ⟨origin, sound, injective⟩ := warrants.origin
  refine ⟨origin, loaded, ?_⟩
  intro position session grant found
  obtain ⟨_, opened, isSound⟩ := sound position session grant found
  refine ⟨opened, isSound, ?_⟩
  intro other otherSession otherGrant otherFound same
  obtain ⟨_, otherOpened, _⟩ := sound other otherSession otherGrant otherFound
  rw [same] at otherOpened
  exact injective other position _ _ _ _ otherFound found
    (distinct _ _ _ _ _ _ _ otherOpened opened).2

theorem found_later {α : Type} {first second : List α} (isPrefix : first <+: second)
    {position : ℕ} {value : α} (found : first[position]? = some value) :
    second[position]? = some value := by
  obtain ⟨bound, rfl⟩ := List.getElem?_eq_some_iff.mp found
  exact List.prefix_iff_getElem?.mp isPrefix position bound

theorem Network.NoncesDistinct.of_extends {before after : Network platform}
    (distinct : after.NoncesDistinct) (later : before.Extends after) : before.NoncesDistinct := by
  intro first second firstPosition secondPosition nonce firstEntry secondEntry firstFound
    secondFound
  exact distinct _ _ _ _ nonce firstEntry secondEntry
    (found_later (later.laptops first) firstFound)
    (found_later (later.laptops second) secondFound)

/-- Every grant has a moment at which a session of its laptop issues it. -/
theorem grant_issued (distinct : (Network.after platform int setups actions).NoncesDistinct)
    {laptop position session : ℕ} {grant : Listener.Grant}
    (found : ((Network.after platform int setups actions).history laptop)[position]? =
      some (.grant session grant)) :
    ∃ before label rest, actions = before ++ .laptop laptop label :: rest ∧
      IssuedBy platform int setups before laptop label position session grant := by
  induction actions using List.reverseRecOn with
  | nil =>
      obtain ⟨_, _, _, _, _, same⟩ := (setups laptop).service_eq
      simp [Network.after, Network.history, Network.start, Listener.World.start, same] at found
  | append_singleton actions action inductionHypothesis =>
      have later := after_extends platform int setups actions [action]
      have isStep : Network.after platform int setups (actions ++ [action]) =
          step int (Network.after platform int setups actions) action := by
        simp [Network.after, run_append]
      by_cases old : position < ((Network.after platform int setups actions).history laptop).length
      · have foundBefore : ((Network.after platform int setups actions).history laptop)[position]? =
            some (.grant session grant) := by
          have kept := List.prefix_iff_getElem?.mp (later.laptops laptop) position old
          rw [List.getElem?_eq_getElem old, ← kept, found]
        obtain ⟨before, label, rest, rfl, issued⟩ :=
          inductionHypothesis (distinct.of_extends later) foundBefore
        exact ⟨before, label, rest ++ [action], by simp, issued⟩
      · have isNew : .grant session grant ∉
            (Network.after platform int setups actions).history laptop := by
          intro membership
          obtain ⟨earlier, isEarlier⟩ := List.mem_iff_getElem?.mp membership
          obtain ⟨origin, loaded, grants⟩ := network_grant distinct laptop
          have same := (grants position session grant found).2.2 earlier session grant
            (found_later (later.laptops laptop) isEarlier) rfl
          obtain ⟨bound, _⟩ := List.getElem?_eq_some_iff.mp isEarlier
          exact old (same ▸ bound)
        have present := List.mem_of_getElem? found
        rw [isStep] at present
        cases action with
        | laptop acting label =>
            by_cases same : laptop = acting
            · subst same
              have grown : .grant session grant ∈ (Listener.step
                  ((Network.after platform int setups actions).laptops laptop)
                  label).service.history := by
                simpa [Network.history, step] using present
              obtain isOld | granting := (Listener.step_cases _ label).grant_mem grown
              · exact (isNew isOld).elim
              · exact ⟨actions, label, [], rfl, not_lt.mp old, granting⟩
            · simp only [Network.history, step, Function.update_of_ne same] at present
              exact (isNew present).elim
        | start run arguments =>
            simp only [step] at present
            split at present <;> exact (isNew present).elim
        | received run message => exact (isNew present).elim
        | sent run raises => exact (isNew present).elim

/-- The signature of a grant is delivered in the step that issues it. -/
theorem delivered_of_granting {before : Listener.World platform} {label : Listener.Label}
    {session laptop : ℕ} {grant : Listener.Grant}
    (granting : Listener.Granting before label session grant) :
    (Action.laptop laptop label : Action Key).signature = grant.signature := by
  obtain ⟨_, _, _, awaited, _, _, signature, _, rfl, _, _, accepts, rfl⟩ := granting.resumes
  obtain ⟨response, isMessage, _, same, _⟩ := accepts
  simp [Action.signature, isMessage, Listener.grantFor, same]

/-- At the moment of a grant a run of the client agrees with it. -/
theorem IssuedBy.agrees (inTrust : ∀ laptop, honest (signingKey laptop))
    (trusted : Along (step int) (Trusted signingKey honest) (Network.start platform setups)
      actions)
    (distinct : (Network.after platform int setups actions).NoncesDistinct)
    {before rest : List (Action Key)} {laptop position session : ℕ} {label : Listener.Label}
    {grant : Listener.Grant} (split : actions = before ++ .laptop laptop label :: rest)
    (issued : IssuedBy platform int setups before laptop label position session grant)
    (found : ((Network.after platform int setups actions).history laptop)[position]? =
      some (.grant session grant))
    (isHonest : HonestDevice platform honest grant) :
    ∃ run, Agrees signingKey int (Network.after platform int setups before) run laptop grant := by
  obtain ⟨origin, loaded, grants⟩ := network_grant distinct laptop
  obtain ⟨opened, sound, _⟩ := grants position session grant found
  obtain ⟨target, message, pem, key, configured, built, hasPem, isKey, verified⟩ :=
    sound.verified
  subst split
  obtain ⟨trustedBefore, trustedStep, _⟩ := Along.append.mp trusted
  have faithful := after_faithful trustedBefore
  have made : Made signingKey (Network.after platform int setups before) key message := by
    apply trustedStep.genuine key message (isHonest pem key hasPem isKey)
    rw [delivered_of_granting issued.granting]
    exact verified
  obtain ⟨run, current, answer, isRun, rfl, answered, nonce, device, same, answers⟩ :=
    made.response faithful built
  obtain ⟨pinned, isPinned⟩ := faithful.pinned run current isRun (isHonest pem _ hasPem isKey)
  have signed := (faithful.answers run current answer isRun answered).2
    (isPinned ▸ inTrust pinned)
  obtain ⟨other, entry, own, isOpened⟩ := signed.challenge faithful answers.challenge
  have later := after_extends platform int setups before (.laptop laptop label :: rest)
  obtain ⟨source, isSource⟩ := List.mem_iff_getElem?.mp ((later.laptops other).subset isOpened)
  rw [nonce] at isSource
  obtain ⟨rfl, _⟩ := distinct _ _ _ _ _ _ _ isSource opened
  exact ⟨run, current, answer, isRun, answered, nonce, device, same ▸ configured, own.symm,
    answers⟩

/-- On the network a nonce is used up once. -/
theorem grants_unique (distinct : (Network.after platform int setups actions).NoncesDistinct)
    {firstLaptop secondLaptop firstPosition secondPosition firstSession secondSession : ℕ}
    {firstGrant secondGrant : Listener.Grant}
    (first : ((Network.after platform int setups actions).history firstLaptop)[firstPosition]? =
      some (.grant firstSession firstGrant))
    (second : ((Network.after platform int setups actions).history
      secondLaptop)[secondPosition]? = some (.grant secondSession secondGrant))
    (sameNonce : firstGrant.nonce = secondGrant.nonce) :
    firstLaptop = secondLaptop ∧ firstPosition = secondPosition := by
  obtain ⟨firstOrigin, _, firstGrants⟩ := network_grant distinct firstLaptop
  obtain ⟨secondOrigin, _, secondGrants⟩ := network_grant distinct secondLaptop
  have firstOpened := (firstGrants _ _ _ first).1
  have secondOpened := (secondGrants _ _ _ second).1
  rw [sameNonce] at firstOpened
  obtain ⟨rfl, _⟩ := distinct _ _ _ _ _ _ _ firstOpened secondOpened
  exact ⟨rfl, (secondGrants _ _ _ second).2.2 _ _ _ first sameNonce⟩

/-- A grant at a position of the history of a laptop, for a device whose key is in trust. -/
structure TrustedGrant (honest : Key → Prop) (network : Network platform)
    (laptop position session : ℕ) (grant : Listener.Grant) : Prop where
  found : (network.history laptop)[position]? = some (.grant session grant)
  device : HonestDevice platform honest grant

/-- However messages are dropped, replayed, reordered, redirected or altered: when a laptop
issues a grant for a device whose key is in trust, a run of the client for this device and the
target id of the laptop has accepted the challenge under the signing key of this laptop, and
no two grants belong to one run.  What a laptop has signed is no response. -/
theorem grants_agree (platform : Listener.Platform Key) (int : Json → Except PyExc ℤ)
    (setups : ℕ → Listener.Setup) (signingKey : ℕ → Key) (honest : Key → Prop)
    (actions : List (Action Key)) (inTrust : ∀ laptop, honest (signingKey laptop))
    (trusted : Along (step int) (Trusted signingKey honest) (Network.start platform setups)
      actions)
    (distinct : (Network.after platform int setups actions).NoncesDistinct) :
    (∃ runOf : ℕ → ℕ → ℕ,
      (∀ laptop position session grant,
        TrustedGrant honest (Network.after platform int setups actions) laptop position session
          grant →
        ∃ before label rest, actions = before ++ .laptop laptop label :: rest ∧
          IssuedBy platform int setups before laptop label position session grant ∧
          Agrees signingKey int (Network.after platform int setups before)
            (runOf laptop position) laptop grant) ∧
      ∀ firstLaptop firstPosition firstSession firstGrant secondLaptop secondPosition
        secondSession secondGrant,
        TrustedGrant honest (Network.after platform int setups actions) firstLaptop
          firstPosition firstSession firstGrant →
        TrustedGrant honest (Network.after platform int setups actions) secondLaptop
          secondPosition secondSession secondGrant →
        runOf firstLaptop firstPosition = runOf secondLaptop secondPosition →
        firstLaptop = secondLaptop ∧ firstPosition = secondPosition) ∧
    ∀ laptop message,
      .signed message ∈ (Network.after platform int setups actions).history laptop →
      ∀ nonce issuedMs deviceId targetId,
        signedMessage (py "response") nonce issuedMs deviceId targetId ≠ .ok message := by
  refine ⟨?_, ?_⟩
  · have choice : ∀ laptop position : ℕ, ∃ run : ℕ, ∀ session grant,
        TrustedGrant honest (Network.after platform int setups actions) laptop position session
          grant →
        ∃ before label rest, actions = before ++ .laptop laptop label :: rest ∧
          IssuedBy platform int setups before laptop label position session grant ∧
          Agrees signingKey int (Network.after platform int setups before) run laptop grant := by
      intro laptop position
      by_cases isGrant : ∃ session grant, TrustedGrant honest
          (Network.after platform int setups actions) laptop position session grant
      · obtain ⟨session, grant, trustedGrant⟩ := isGrant
        obtain ⟨before, label, rest, split, issued⟩ := grant_issued distinct trustedGrant.found
        obtain ⟨run, agrees⟩ :=
          issued.agrees inTrust trusted distinct split trustedGrant.found trustedGrant.device
        refine ⟨run, ?_⟩
        intro other otherGrant otherTrusted
        have same := otherTrusted.found.symm.trans trustedGrant.found
        rw [Option.some.injEq, Listener.Event.grant.injEq] at same
        obtain ⟨rfl, rfl⟩ := same
        exact ⟨before, label, rest, split, issued, agrees⟩
      · exact ⟨0, fun session grant trustedGrant => (isGrant ⟨session, grant, trustedGrant⟩).elim⟩
    choose runOf agreement using choice
    refine ⟨runOf, agreement, ?_⟩
    intro firstLaptop firstPosition firstSession firstGrant secondLaptop secondPosition
      secondSession secondGrant first second same
    obtain ⟨firstBefore, firstLabel, firstRest, firstSplit, _, firstAgrees⟩ :=
      agreement _ _ _ _ first
    obtain ⟨secondBefore, secondLabel, secondRest, secondSplit, _, secondAgrees⟩ :=
      agreement _ _ _ _ second
    have firstFinal := firstAgrees.mono (firstSplit ▸ after_extends platform int setups firstBefore
      (.laptop firstLaptop firstLabel :: firstRest))
    have secondFinal := secondAgrees.mono (secondSplit ▸ after_extends platform int setups
      secondBefore (.laptop secondLaptop secondLabel :: secondRest))
    exact grants_unique distinct first.found second.found
      (firstFinal.nonce (same ▸ secondFinal))
  · intro laptop message signed nonce issuedMs deviceId targetId built
    obtain ⟨_, _, _, _, same⟩ := (after_faithful trusted).signs laptop message signed
    exact role_ne (signedMessage_injective same built).1

end Run

/-! ## A laptop and a phone -/

/-- The message whose signature is `00`. -/
def challengeMessage : Bytes :=
  encode "remote-unlock/v2|challenge|00112233445566778899aabbccddeeff|1|phone|laptop|unlock".toList

/-- A platform with two signatures: `00`, of the challenge under the key `false`, and `01`, of
the response under the key `true`. -/
def pairedPlatform : Listener.Platform Bool where
  sha := Listener.samplePlatform.sha
  crypto :=
    { loadPem := fun _ => .ok true
      b64decode := fun _ => .error .valueError
      loadDer := fun _ => .error .valueError
      isP256 := fun _ => true
      encodeDss := fun _ _ => []
      verify := fun key sig message =>
        (key = false ∧ sig = [0] ∧ message = challengeMessage) ||
          (key = true ∧ sig = [1] ∧ message = Listener.sampleMessage) }
  str := fun _ => []
  loadsBytes := fun _ => .error .valueError

/-- `int` of a number that is one. -/
def readInt : Json → Except PyExc ℤ
  | .int number => .ok number
  | _ => .error .typeError

def phoneArguments : Arguments Bool := ⟨true, py "phone", false, py "laptop"⟩

def sampleChallenge : Json :=
  .obj [(py "type", .str (py "challenge")), (py "nonce", .str Listener.sampleNonce),
    (py "issued_ms", .int 1), (py "target_id", .str (py "laptop")),
    (py "server_sig", .str (py "00"))]

/-- The laptop has sent a challenge, and a run of the client waits for it. -/
def challengeSent : List (Action Bool) :=
  (Listener.openSession 0).map (.laptop 0) ++ [.start 0 phoneArguments]

/-- The client has answered it. -/
def responseSent : List (Action Bool) :=
  challengeSent ++ [.received 0 (.ok sampleChallenge), .sent 0 none]

/-- The laptop gets the response. -/
def pairedActions : List (Action Bool) :=
  responseSent ++ [.laptop 0 (.resume 0 (.text Listener.sampleResponse) Listener.calmAnswers)]

/-- The network after actions of one laptop and one phone. -/
def paired (actions : List (Action Bool)) : Network pairedPlatform :=
  .after pairedPlatform readInt (fun _ => Listener.sampleSetup) actions

/-- The message and the nonces of an event. -/
def shownEvent : Listener.Event → Option Bytes × Option PyStr × Option PyStr
  | .signed message => (some message, none, none)
  | .challenge nonce _ => (none, some nonce, none)
  | .grant _ grant => (none, none, some grant.nonce)
  | _ => (none, none, none)

theorem shown_pairedActions :
    (Listener.World.after pairedPlatform Listener.sampleSetup
      (labelsOf 0 pairedActions)).service.history.map shownEvent =
        [(none, some Listener.sampleNonce, none), (some challengeMessage, none, none),
          (none, none, some Listener.sampleNonce), (none, none, none)] := by
  decide +kernel

theorem shown_challengeSent :
    (Listener.World.after pairedPlatform Listener.sampleSetup
      (labelsOf 0 challengeSent)).service.history.map shownEvent =
        [(none, some Listener.sampleNonce, none), (some challengeMessage, none, none)] := by
  decide +kernel

theorem response_sampleChallenge :
    (answer pairedPlatform.crypto readInt phoneArguments sampleChallenge).toOption.map
      Answer.response = some Listener.sampleMessage := by
  decide +kernel

theorem history_paired (actions : List (Action Bool)) (laptop : ℕ) :
    (paired actions).history laptop =
      (Listener.World.after pairedPlatform Listener.sampleSetup
        (labelsOf laptop actions)).service.history := by
  rw [paired, Network.history, after_laptops]

theorem trusted_of_unsigned {network : Network platform} {action : Action Key}
    (unsigned : action.signature = none)
    (unstarted : ∀ run arguments, action ≠ .start run arguments) :
    Trusted signingKey honest network action where
  genuine key message _ verified := by
    rw [unsigned] at verified
    contradiction
  pinned run arguments starts := (unstarted run arguments starts).elim

theorem verified_paired {key : Bool} {message sig : Bytes} {text : PyStr}
    (bytes : fromHex text = some sig)
    (verified : verifySig pairedPlatform.crypto key message (some (.str text)) = true) :
    key = false ∧ sig = [0] ∧ message = challengeMessage ∨
      key = true ∧ sig = [1] ∧ message = Listener.sampleMessage := by
  simp only [verifySig, bytes] at verified
  split_ifs at verified
  · simp [pairedPlatform] at verified
  · simpa [pairedPlatform] using verified

theorem signed_challengeSent :
    .signed challengeMessage ∈ (paired challengeSent).history 0 := by
  have shown : (some challengeMessage, none, none) ∈
      ((paired challengeSent).history 0).map shownEvent := by
    rw [history_paired, shown_challengeSent]
    simp
  obtain ⟨event, isEvent, same⟩ := List.mem_map.mp shown
  cases event with
  | signed message =>
      rw [shownEvent, Prod.mk.injEq, Option.some.injEq] at same
      exact same.1 ▸ isEvent
  | _ => simp [shownEvent] at same

theorem signature_sampleResponse :
    (Action.laptop 0 (.resume 0 (.text Listener.sampleResponse) Listener.calmAnswers) :
      Action Bool).signature = some (.str (py "01")) := by
  decide +kernel

theorem answered_responseSent :
    ∃ current made, (paired responseSent).clients 0 = some current ∧
      current.arguments.deviceKey = true ∧ current.answered = some made ∧
      made.response = Listener.sampleMessage := by
  obtain ⟨made, isMade, response⟩ := Option.map_eq_some_iff.mp response_sampleChallenge
  have answered : answer pairedPlatform.crypto readInt phoneArguments sampleChallenge =
      .ok made := by
    cases found : answer pairedPlatform.crypto readInt phoneArguments sampleChallenge with
    | error exc =>
        rw [found] at isMade
        contradiction
    | ok other =>
        rw [found, Except.toOption, Option.some.injEq] at isMade
        rw [isMade]
  have waits : (paired challengeSent).clients 0 = some (.start phoneArguments) := rfl
  refine ⟨⟨phoneArguments, .result, some made⟩, made, ?_, rfl, rfl, response⟩
  rw [paired, Network.after, responseSent, run_append]
  change (((paired challengeSent).clients 0).map fun current => current.received
    pairedPlatform.crypto readInt (.ok sampleChallenge)).map (fun current => current.sent none) = _
  rw [waits]
  simp [Run.start, Run.received, Run.sent, Except.bind, answered]

theorem trusted_openSession :
    Along (step readInt) (Trusted (fun _ => false) fun _ => True)
      (Network.start pairedPlatform fun _ => Listener.sampleSetup) challengeSent := by
  rw [challengeSent, Along.append]
  refine ⟨⟨?_, ?_, ?_, trivial⟩, ?_, trivial⟩
  · exact trusted_of_unsigned rfl (by simp)
  · exact trusted_of_unsigned (Option.isNone_iff_eq_none.mp (by decide +kernel)) (by simp)
  · exact trusted_of_unsigned rfl (by simp)
  · refine ⟨fun _ _ _ verified => by contradiction, fun run arguments starts _ => ⟨0, ?_⟩⟩
    obtain ⟨_, rfl⟩ := Action.start.inj starts
    rfl

theorem trusted_answer :
    Along (step readInt) (Trusted (fun _ => false) fun _ => True) (paired challengeSent)
      [.received 0 (.ok sampleChallenge), .sent 0 none] := by
  refine ⟨⟨?_, by simp⟩, trusted_of_unsigned rfl (by simp), trivial⟩
  intro key message _ verified
  obtain ⟨rfl, _, rfl⟩ | ⟨_, wrong, _⟩ :=
    verified_paired (by decide : fromHex (py "00") = some [0]) verified
  · exact .laptop 0 rfl signed_challengeSent
  · contradiction

theorem trusted_response :
    Along (step readInt) (Trusted (fun _ => false) fun _ => True) (paired responseSent)
      [.laptop 0 (.resume 0 (.text Listener.sampleResponse) Listener.calmAnswers)] := by
  refine ⟨⟨?_, by simp⟩, trivial⟩
  intro key message _ verified
  rw [signature_sampleResponse] at verified
  obtain ⟨_, wrong, _⟩ | ⟨rfl, _, rfl⟩ :=
    verified_paired (by decide : fromHex (py "01") = some [1]) verified
  · contradiction
  · obtain ⟨current, made, found, own, answered, response⟩ := answered_responseSent
    exact .client 0 current made found own answered response

/-- A run on from a network the actions have led to. -/
theorem along_paired {condition : Network pairedPlatform → Action Bool → Prop}
    {first second : List (Action Bool)}
    (start : Along (step readInt) condition
      (Network.start pairedPlatform fun _ => Listener.sampleSetup) first)
    (rest : Along (step readInt) condition (paired first) second) :
    Along (step readInt) condition
      (Network.start pairedPlatform fun _ => Listener.sampleSetup) (first ++ second) :=
  Along.append.mpr ⟨start, rest⟩

theorem trusted_paired :
    Along (step readInt) (Trusted (fun _ => false) fun _ => True)
      (Network.start pairedPlatform fun _ => Listener.sampleSetup) pairedActions :=
  along_paired (along_paired trusted_openSession trusted_answer) trusted_response

/-- The laptop has sent one challenge. -/
theorem opened_paired {position : ℕ} {nonce : PyStr} {entry : Listener.Pending}
    (found : ((paired pairedActions).history 0)[position]? = some (.challenge nonce entry)) :
    position = 0 := by
  have shown := congrArg (Option.map shownEvent) found
  rw [history_paired, ← List.getElem?_map, shown_pairedActions] at shown
  clear found
  simp only [Option.map_some, shownEvent] at shown
  rcases position with _ | _ | _ | _ | position
  · rfl
  · simp at shown
  · simp at shown
  · simp at shown
  · simp at shown

/-- The others have sent none. -/
theorem history_other {laptop : ℕ} (other : laptop ≠ 0) :
    (paired pairedActions).history laptop = [] := by
  have silent : labelsOf laptop pairedActions = [] := by
    simp [labelsOf, pairedActions, responseSent, challengeSent, Listener.openSession, other.symm]
  rw [history_paired, silent]
  rfl

theorem noncesDistinct_paired : (paired pairedActions).NoncesDistinct := by
  have first : ∀ {laptop position : ℕ} {nonce : PyStr} {entry : Listener.Pending},
      ((paired pairedActions).history laptop)[position]? = some (.challenge nonce entry) →
      laptop = 0 := by
    intro laptop position nonce entry found
    by_contra other
    rw [history_other other] at found
    simp at found
  intro one two onePosition twoPosition nonce oneEntry twoEntry oneFound twoFound
  obtain rfl := first oneFound
  obtain rfl := first twoFound
  exact ⟨rfl, (opened_paired oneFound).trans (opened_paired twoFound).symm⟩

/-- The phone agrees with the grant of the laptop. -/
theorem grants_agree_paired :
    ∃ run before session grant, ((paired pairedActions).history 0)[2]? =
        some (.grant session grant) ∧
      Agrees (fun _ => false) readInt (paired before) run 0 grant := by
  obtain ⟨⟨runOf, agreement, _⟩, _⟩ := grants_agree pairedPlatform readInt
    (fun _ => Listener.sampleSetup) (fun _ => false) (fun _ => True) pairedActions
    (fun _ => trivial) trusted_paired noncesDistinct_paired
  have shown : (((paired pairedActions).history 0)[2]?).map shownEvent =
      some (none, none, some Listener.sampleNonce) := by
    rw [history_paired, ← List.getElem?_map, shown_pairedActions]
    rfl
  obtain ⟨event, found, same⟩ := Option.map_eq_some_iff.mp shown
  cases event with
  | grant session grant =>
      obtain ⟨before, _, _, _, _, agrees⟩ :=
        agreement 0 2 session grant ⟨found, fun _ _ _ _ => trivial⟩
      exact ⟨runOf 0 2, before, session, grant, found, agrees⟩
  | _ => simp [shownEvent] at same

end RemoteUnlock.Client
