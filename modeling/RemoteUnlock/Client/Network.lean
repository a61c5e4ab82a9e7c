import RemoteUnlock.Client.Unlock
import RemoteUnlock.Listener.Authorisation

/-!
# Laptops and clients on a network

Any number of laptops run the listener and any number of runs of the client go on beside
them; what is delivered to whom is up to the network.  Signing keys sign challenges and
device keys responses (`Signs`, `Run.received_cases`), so a message and the key it was signed
with tell which party has signed it (`Made.challenge`, `Made.response`).
-/

namespace RemoteUnlock.Listener

open Python Python.Items Common

variable {Key : Type} {platform : Platform Key}

/-! ## What a signing key signs -/

/-- What was signed are challenges that were made pending. -/
def Signs (history : List Event) : Prop :=
  ∀ message, .signed message ∈ history → ∃ nonce entry target,
    .challenge nonce entry ∈ history ∧
      signedMessage (py "challenge") nonce entry.issuedMs entry.deviceId target = .ok message

theorem Signs.append {history later : List Event} (signs : Signs history)
    (silent : ∀ message, .signed message ∉ later) : Signs (history ++ later) := by
  intro message membership
  rcases List.mem_append.mp membership with old | new
  · obtain ⟨nonce, entry, target, opened, built⟩ := signs message old
    exact ⟨nonce, entry, target, List.mem_append_left _ opened, built⟩
  · exact (silent message new).elim

theorem Signs.opens {nonce : PyStr} {entry : Pending} {signed : Option Bytes} {data : Dict}
    {result : Except PyExc Json} {before after : UnlockService}
    (signs : Signs before.history) (opens : Opens nonce entry signed before after)
    (built : SignedFor data entry.deviceId nonce entry.issuedMs signed result) :
    Signs after.history := by
  rw [opens.history]
  cases signed with
  | none => exact signs.append (by simp)
  | some bytes =>
      obtain ⟨_, target, _, made⟩ := built
      obtain ⟨targetId, _, isMessage⟩ := signedMessageFor_eq_ok made
      intro message membership
      by_cases fresh : message = bytes
      · subst fresh
        exact ⟨nonce, entry, targetId, by simp, isMessage⟩
      · have old : Event.signed message ∈ before.history := by simpa [fresh] using membership
        obtain ⟨other, found, otherTarget, opened, otherBuilt⟩ := signs message old
        exact ⟨other, found, otherTarget, List.mem_append_left _ opened, otherBuilt⟩

theorem SessionEffect.signs {session : ℕ} {peer : Peer} {answers : Answers} {awaited : Awaited}
    {before after : UnlockService} {place : Place} {next : Except PyExc Place}
    (effect : SessionEffect platform session peer answers awaited before place after next)
    (signs : Signs before.history) : Signs after.history := by
  cases effect with
  | quiet calm => exact calm.history ▸ signs
  | challenge identity challenge signed admitted identified opens message =>
      exact signs.opens opens message
  | unsent deviceId opens =>
      rw [opens.history]
      exact signs.append (by simp)
  | await => exact signs
  | grant nonce signature entry recorded accepts issues =>
      rw [issues.history]
      apply signs.append
      cases recorded <;> simp

theorem PamEffect.signs {request : ℕ} {datas : List Dict} {before after : UnlockService}
    (effect : PamEffect request datas before after) (signs : Signs before.history) :
    Signs after.history := by
  cases effect with
  | spares middle events spared silent final =>
      rw [final, said, spared.history]
      apply signs.append
      rcases silent with rfl | rfl <;> simp
  | takes middle events taking takes cleared dated replies final =>
      rw [final, said, takes.history, List.append_assoc]
      apply signs.append
      rcases replies with rfl | rfl | rfl <;> simp

theorem StepCase.signs {before after : World platform} {label : Label}
    (moved : StepCase before label after) (signs : Signs before.service.history) :
    Signs after.service.history := by
  cases moved with
  | idle => exact signs
  | tick => exact signs
  | change => exact signs
  | hangUp => exact signs.append (by simp)
  | connect session peer access answers service next known account fresh ran =>
      change Signs service.history
      rw [(connect_steady ran).history]
      exact signs
  | resume session awaited answers current service next known account found allowed ran =>
      exact (resume_effect ran).signs signs
  | pamConnect request credentials answers service next passed fresh ran =>
      exact (pamConnect_effect ran).1.signs signs
  | pamResume request awaited answers waiting service next passed found allowed ran =>
      exact (pamResume_effect waiting.passed ran).1.signs signs

end RemoteUnlock.Listener

namespace RemoteUnlock.Client

open Python Python.Items Common Library

variable {Key : Type} {platform : Listener.Platform Key}

/-! ## The network -/

/-- The laptops and the runs of the client by their numbers. -/
structure Network (platform : Listener.Platform Key) where
  laptops : ℕ → Listener.World platform
  clients : ℕ → Option (Run Key)

/-- What happens on the network: something at a laptop, or a client is started, gets a
message or has sent one. -/
inductive Action (Key : Type) where
  | laptop (laptop : ℕ) (label : Listener.Label)
  | start (run : ℕ) (arguments : Arguments Key)
  | received (run : ℕ) (message : Except PyExc Json)
  | sent (run : ℕ) (raises : Option PyExc)

/-- A run of the client changes. -/
def Network.change (network : Network platform) (run : ℕ) (next : Run Key → Run Key) :
    Network platform :=
  { network with
    clients := Function.update network.clients run ((network.clients run).map next) }

/-- A run of the client begins. -/
def Network.setClient (network : Network platform) (run : ℕ) (current : Run Key) :
    Network platform :=
  { network with clients := Function.update network.clients run (some current) }

/-- One step of the network; a run is started once. -/
def step (int : Json → Except PyExc ℤ) (network : Network platform) :
    Action Key → Network platform
  | .laptop laptop label =>
      { network with
        laptops := Function.update network.laptops laptop
          (Listener.step (network.laptops laptop) label) }
  | .start run arguments =>
      match network.clients run with
      | some _ => network
      | none => network.setClient run (.start arguments)
  | .received run message =>
      network.change run fun current => current.received platform.crypto int message
  | .sent run raises => network.change run fun current => current.sent raises

theorem Network.clients_change (network : Network platform) (run : ℕ)
    (next : Run Key → Run Key) (other : ℕ) :
    (network.change run next).clients other =
      if other = run then (network.clients run).map next else network.clients other :=
  Function.update_apply _ _ _ _

theorem Network.clients_setClient (network : Network platform) (run : ℕ) (current : Run Key)
    (other : ℕ) :
    (network.setClient run current).clients other =
      if other = run then some current else network.clients other :=
  Function.update_apply _ _ _ _

/-- The network when the laptops have been started. -/
def Network.start (platform : Listener.Platform Key) (setups : ℕ → Listener.Setup) :
    Network platform :=
  ⟨fun laptop => .start platform (setups laptop), fun _ => none⟩

/-- The network after a sequence of actions. -/
def Network.after (platform : Listener.Platform Key) (int : Json → Except PyExc ℤ)
    (setups : ℕ → Listener.Setup) (actions : List (Action Key)) : Network platform :=
  run (step int) (Network.start platform setups) actions

/-- The events at a laptop. -/
def Network.history (network : Network platform) (laptop : ℕ) : List Listener.Event :=
  (network.laptops laptop).service.history

/-- What happens at a laptop. -/
def labelsOf (laptop : ℕ) (actions : List (Action Key)) : List Listener.Label :=
  actions.filterMap fun
    | .laptop acting label => if acting = laptop then some label else none
    | _ => none

/-- Each laptop runs by itself. -/
theorem after_laptops (platform : Listener.Platform Key) (int : Json → Except PyExc ℤ)
    (setups : ℕ → Listener.Setup) (actions : List (Action Key)) (laptop : ℕ) :
    (Network.after platform int setups actions).laptops laptop =
      Listener.World.after platform (setups laptop) (labelsOf laptop actions) := by
  have general : ∀ network : Network platform,
      (run (step int) network actions).laptops laptop =
        run Listener.step (network.laptops laptop) (labelsOf laptop actions) := by
    induction actions with
    | nil => exact fun network => rfl
    | cons action actions inductionHypothesis =>
        intro network
        rw [run_cons, inductionHypothesis]
        cases action with
        | laptop acting label =>
            by_cases same : acting = laptop
            · simp [labelsOf, same, step]
            · simp [labelsOf, same, step, Function.update_of_ne (Ne.symm same)]
        | start run arguments =>
            simp only [labelsOf, List.filterMap_cons, step]
            split <;> rfl
        | received run message => rfl
        | sent run raises => rfl
  exact general _

/-! ## Runs of the client -/

section Runs

variable {crypto : Crypto Key} {int : Json → Except PyExc ℤ}

/-- A run that waits for a challenge has signed nothing. -/
def Run.Fresh (run : Run Key) : Prop := run.place = .challenge → run.answered = none

/-- A message makes a run answer a challenge, or what it has answered stays. -/
theorem Run.received_cases (crypto : Crypto Key) (int : Json → Except PyExc ℤ) (run : Run Key)
    (message : Except PyExc Json) :
    (run.received crypto int message).arguments = run.arguments ∧
      ((run.received crypto int message).answered = run.answered ∨
        run.place = .challenge ∧ ∃ challenge made, message = .ok challenge ∧
          answer crypto int run.arguments challenge = .ok made ∧
          (run.received crypto int message).answered = some made) := by
  unfold Run.received
  split
  next waits =>
    split
    next made answered =>
      obtain ⟨challenge, isMessage, isAnswer⟩ := bind_eq_ok.mp answered
      exact ⟨rfl, .inr ⟨waits, challenge, made, isMessage, isAnswer, rfl⟩⟩
    · exact ⟨rfl, .inl rfl⟩
  · exact ⟨rfl, .inl rfl⟩
  · exact ⟨rfl, .inl rfl⟩

theorem Run.received_fresh {run : Run Key} (fresh : run.Fresh) (message : Except PyExc Json) :
    (run.received crypto int message).Fresh := by
  unfold Run.received
  split
  · split <;> exact fun waits => by contradiction
  · exact fun waits => by contradiction
  · exact fresh

theorem Run.sent_cases (run : Run Key) (raises : Option PyExc) :
    (run.sent raises).arguments = run.arguments ∧ (run.sent raises).answered = run.answered := by
  unfold Run.sent
  split <;> exact ⟨rfl, rfl⟩

theorem Run.sent_fresh {run : Run Key} (fresh : run.Fresh) (raises : Option PyExc) :
    (run.sent raises).Fresh := by
  unfold Run.sent
  split
  · exact fun waits => by contradiction
  · exact fun waits => by contradiction
  · exact fresh

end Runs

/-! ## Later networks -/

/-- What a run of the client is started with and has answered stays. -/
structure Run.Extends (before after : Run Key) : Prop where
  arguments : after.arguments = before.arguments
  answered : ∀ answer, before.answered = some answer → after.answered = some answer

/-- What has happened at the laptops and in the runs of the client stays. -/
structure Network.Extends (before after : Network platform) : Prop where
  laptops : ∀ laptop, before.history laptop <+: after.history laptop
  clients : ∀ run current, before.clients run = some current →
    ∃ later, after.clients run = some later ∧ current.Extends later

theorem Network.Extends.refl (network : Network platform) : network.Extends network where
  laptops _ := List.prefix_refl _
  clients _ current found := ⟨current, found, rfl, fun _ answered => answered⟩

theorem Network.Extends.trans {first second third : Network platform}
    (start : first.Extends second) (rest : second.Extends third) : first.Extends third where
  laptops laptop := (start.laptops laptop).trans (rest.laptops laptop)
  clients run current found := by
    obtain ⟨middle, isMiddle, left⟩ := start.clients run current found
    obtain ⟨later, isLater, right⟩ := rest.clients run middle isMiddle
    exact ⟨later, isLater, right.arguments.trans left.arguments,
      fun answer answered => right.answered answer (left.answered answer answered)⟩

/-- No run that waits for a challenge has signed anything. -/
def Network.AllFresh (network : Network platform) : Prop :=
  ∀ run current, network.clients run = some current → current.Fresh

theorem Network.change_extends {network : Network platform} {run : ℕ} {next : Run Key → Run Key}
    (keeps : ∀ current, network.clients run = some current → current.Extends (next current)) :
    network.Extends (network.change run next) where
  laptops _ := List.prefix_refl _
  clients other current found := by
    by_cases same : other = run
    · subst same
      exact ⟨next current, by simp [Network.clients_change, found], keeps current found⟩
    · refine ⟨current, ?_, rfl, fun _ answered => answered⟩
      rw [Network.clients_change, if_neg same, found]

variable {int : Json → Except PyExc ℤ}

theorem step_extends {network : Network platform} (fresh : network.AllFresh)
    (action : Action Key) : network.Extends (step int network action) := by
  cases action with
  | laptop acting label =>
      refine ⟨?_, fun run current found => ⟨current, found, rfl, fun _ answered => answered⟩⟩
      intro laptop
      by_cases same : laptop = acting
      · subst same
        simpa [Network.history, step] using
          (Listener.step_cases (network.laptops laptop) label).history
      · simp [Network.history, step, same]
  | start run arguments =>
      simp only [step]
      split
      · exact Network.Extends.refl network
      next absent =>
        refine ⟨fun _ => List.prefix_refl _, ?_⟩
        intro other current found
        have different : other ≠ run := by
          rintro rfl
          rw [absent] at found
          contradiction
        refine ⟨current, ?_, rfl, fun _ answered => answered⟩
        rw [Network.clients_setClient, if_neg different, found]
  | received run message =>
      apply Network.change_extends
      intro current found
      obtain ⟨arguments, same | ⟨waits, _⟩⟩ :=
        current.received_cases platform.crypto int message
      · exact ⟨arguments, fun answer answered => same.trans answered⟩
      · refine ⟨arguments, fun answer answered => ?_⟩
        rw [fresh run current found waits] at answered
        contradiction
  | sent run raises =>
      apply Network.change_extends
      intro current found
      obtain ⟨arguments, same⟩ := current.sent_cases raises
      exact ⟨arguments, fun answer answered => same.trans answered⟩

theorem step_allFresh {network : Network platform} (fresh : network.AllFresh)
    (action : Action Key) : (step int network action).AllFresh := by
  have changed : ∀ (run : ℕ) (next : Run Key → Run Key),
      (∀ current, current.Fresh → (next current).Fresh) → (network.change run next).AllFresh := by
    intro run next keeps other current found
    rw [Network.clients_change] at found
    split at found
    · obtain ⟨old, isOld, rfl⟩ := Option.map_eq_some_iff.mp found
      exact keeps old (fresh run old isOld)
    · exact fresh other current found
  cases action with
  | laptop acting label => exact fresh
  | start run arguments =>
      simp only [step]
      split
      · exact fresh
      · intro other current found
        rw [Network.clients_setClient] at found
        split at found
        · rw [Option.some.injEq] at found
          subst found
          exact fun _ => rfl
        · exact fresh other current found
  | received run message => exact changed run _ fun current old => Run.received_fresh old message
  | sent run raises => exact changed run _ fun current old => Run.sent_fresh old raises

theorem run_extends {network : Network platform} (fresh : network.AllFresh)
    (actions : List (Action Key)) : network.Extends (run (step int) network actions) := by
  induction actions generalizing network with
  | nil => exact Network.Extends.refl network
  | cons action actions inductionHypothesis =>
      exact (step_extends fresh action).trans (inductionHypothesis (step_allFresh fresh action))

theorem after_allFresh (platform : Listener.Platform Key) (int : Json → Except PyExc ℤ)
    (setups : ℕ → Listener.Setup) (actions : List (Action Key)) :
    (Network.after platform int setups actions).AllFresh := by
  have start : (Network.start platform setups).AllFresh :=
    fun run current found => by contradiction
  have keeps : ∀ (network : Network platform) (action : Action Key), network.AllFresh →
      (step int network action).AllFresh := fun _ action fresh => step_allFresh fresh action
  exact run_invariant keeps start actions

theorem after_extends (platform : Listener.Platform Key) (int : Json → Except PyExc ℤ)
    (setups : ℕ → Listener.Setup) (first second : List (Action Key)) :
    (Network.after platform int setups first).Extends
      (Network.after platform int setups (first ++ second)) := by
  rw [Network.after, Network.after, run_append]
  exact run_extends (after_allFresh platform int setups first) second

/-! ## What one step does to a run -/

/-- Where a run of the client comes from: it is started, it answers a challenge, or it has
answered what it had. -/
inductive ClientCase (int : Json → Except PyExc ℤ) (network : Network platform)
    (action : Action Key) (run : ℕ) (current : Run Key) : Prop where
  | started (arguments : Arguments Key) (starts : action = .start run arguments)
      (same : current = .start arguments) : ClientCase int network action run current
  | kept (old : Run Key) (found : network.clients run = some old)
      (arguments : current.arguments = old.arguments)
      (answered : current.answered = old.answered) : ClientCase int network action run current
  | answers (old : Run Key) (challenge : Json) (made : Answer)
      (found : network.clients run = some old) (receives : action = .received run (.ok challenge))
      (arguments : current.arguments = old.arguments)
      (isAnswer : answer platform.crypto int current.arguments challenge = .ok made)
      (answered : current.answered = some made) : ClientCase int network action run current

theorem step_client {network : Network platform} {action : Action Key} {run : ℕ}
    {current : Run Key} (found : (step int network action).clients run = some current) :
    ClientCase int network action run current := by
  cases action with
  | laptop acting label => exact .kept current found rfl rfl
  | start acting arguments =>
      simp only [step] at found
      split at found
      · exact .kept current found rfl rfl
      · rw [Network.clients_setClient] at found
        split at found
        next same =>
          rw [Option.some.injEq] at found
          exact .started arguments (by rw [same]) found.symm
        · exact .kept current found rfl rfl
  | received acting message =>
      simp only [step, Network.clients_change] at found
      split at found
      next same =>
        obtain ⟨old, isOld, rfl⟩ := Option.map_eq_some_iff.mp found
        rw [← same] at isOld
        obtain ⟨arguments, answered | ⟨_, challenge, made, rfl, isAnswer, answered⟩⟩ :=
          old.received_cases platform.crypto int message
        · exact .kept old isOld arguments answered
        · exact .answers old challenge made isOld (by rw [same]) arguments
            (arguments ▸ isAnswer) answered
      · exact .kept current found rfl rfl
  | sent acting raises =>
      simp only [step, Network.clients_change] at found
      split at found
      next same =>
        obtain ⟨old, isOld, rfl⟩ := Option.map_eq_some_iff.mp found
        rw [← same] at isOld
        obtain ⟨arguments, answered⟩ := old.sent_cases raises
        exact .kept old isOld arguments answered
      · exact .kept current found rfl rfl

end RemoteUnlock.Client
