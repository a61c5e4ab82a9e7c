import RemoteUnlock.Listener.FailClosed
import RemoteUnlock.Listener.Isolation

/-!
# One device among others

A device with an address of its own goes the same way in two runs that differ in what the
others do, as long as there is room for its challenges, the others touch none of them and load
no configuration, and `challenge_ttl` is a number that never grows (`faresAlike_of_separate`).
Where one of these fails, the others disturb it (`disturbed`).
-/

namespace RemoteUnlock.Listener

open Python Python.Items Common Audit Library

variable {Key : Type} {platform : Platform Key} {own : LockKind → PyStr → Bool}

/-! ## Sessions that keep apart -/

/-- No connection meets the cap, and those from the addresses have numbers of their own. -/
def World.Welcomes (own : LockKind → PyStr → Bool) (world : World platform) : Label → Prop
  | .connect session peer _ _ =>
      world.service.Uncapped ∧ (own .ip peer.ip = true → world.sessions session = none)
  | _ => True

/-- The sessions from the addresses, and no others, are those of the devices. -/
structure World.Separate (own : LockKind → PyStr → Bool) (world : World platform)
    (label : Label) : Prop where
  apart : ∀ session ∈ label.session, ∀ current ∈ world.sessions session,
    ∀ deviceId ∈ world.device session label, own .device deviceId = own .ip current.peer.ip
  welcomes : world.Welcomes own label

instance (world : World platform) : (label : Label) → Decidable (world.Welcomes own label)
  | .connect session peer _ _ => inferInstanceAs (Decidable (world.service.Uncapped ∧
      (own .ip peer.ip = true → world.sessions session = none)))
  | .tick _ | .change _ | .hangUp _ | .resume _ _ _ | .pamConnect _ _ _ | .pamResume _ _ _ =>
      isTrue trivial

instance (world : World platform) (label : Label) : Decidable (world.Separate own label) :=
  decidable_of_iff ((∀ session ∈ label.session, ∀ current ∈ world.sessions session,
      ∀ deviceId ∈ world.device session label,
        own .device deviceId = own .ip current.peer.ip) ∧ world.Welcomes own label)
    ⟨fun holds => ⟨holds.1, holds.2⟩, fun separate => ⟨separate.apart, separate.welcomes⟩⟩

/-- There is room for the challenge that a hello asks for. -/
def World.Roomy (world : World platform) : Label → Prop
  | .resume session awaited answers =>
      ∀ current admission deadline deviceId, world.sessions session = some current →
        current.place = .recvHello admission deadline →
        world.device session (.resume session awaited answers) = some deviceId →
          ∃ kept, Room world.service kept
  | _ => True

/-- What is in force as `challenge_ttl` is a number, and does not grow with the step. -/
def World.Timed (world : World platform) (label : Label) : Prop :=
  ∃ ttl, IsLimit ttl ∧ item world.service.data "challenge_ttl" = .ok ttl ∧
    world.Shortens ttl label

/-- The devices are left alone: there is room for their challenges, which expire no later than
they were to, and the others touch none of these and load no configuration. -/
structure World.LeavesAlone (own : LockKind → PyStr → Bool) (world : World platform)
    (label : Label) : Prop where
  timed : world.Timed label
  roomy : world.concerns own label = true → world.Roomy label
  unobtrusive : world.concerns own label = false → world.Unobtrusive own label

theorem World.Separate.orderly {world : World platform} {label : Label}
    (separate : world.Separate own label) (leaves : world.LeavesAlone own label) :
    world.Orderly own label := by
  obtain ⟨ttl, limit, configured, shortens⟩ := leaves.timed
  refine ⟨ttl, limit, ⟨configured, ?_, ?_, leaves.unobtrusive⟩, shortens⟩
  · intro session current deviceId isSession found isDevice
    exact separate.apart session isSession current found deviceId isDevice
  · intro concerns
    cases label with
    | connect session peer access answers =>
        exact ⟨separate.welcomes.2 concerns, separate.welcomes.1⟩
    | resume session awaited answers => exact leaves.roomy concerns
    | _ => trivial

theorem World.Orderly.leavesAlone {world : World platform} {label : Label}
    (orderly : world.Orderly own label) : world.LeavesAlone own label := by
  obtain ⟨ttl, limit, considerate, shortens⟩ := orderly
  refine ⟨⟨ttl, limit, considerate.timed, shortens⟩, fun concerns => ?_,
    considerate.unobtrusive⟩
  cases label with
  | resume session awaited answers => exact considerate.served concerns
  | _ => trivial

/-! ## Two runs -/

/-- The counter of a key as its next failure takes it up. -/
def UnlockService.counter (service : UnlockService) (kind : LockKind) (key : PyStr) : Failures :=
  (service.backoff kind).takeUp service.time key

theorem Twins.counter {ttl : Json} {left right : UnlockService} (twins : Twins own ttl left right)
    {kind : LockKind} {key : PyStr} (isOwn : own kind key = true) :
    (left.counter kind key).fails = (right.counter kind key).fails ∧
      (left.counter kind key).level = (right.counter kind key).level := by
  unfold UnlockService.counter
  rw [← twins.time]
  exact (twins.counts kind).takeUp left.time_nonneg isOwn

/-- The sessions of a device take the same course in two runs, and the counters of the device
and of its address are the same. -/
structure FaresAlike (ip device : PyStr) (platform : Platform Key) (setup : Setup)
    (first second : List Label) : Prop
    extends Isolated (alone ip device) platform setup first second where
  counted : ∀ kind key, alone ip device kind key = true →
    ((World.after platform setup first).service.counter kind key).fails =
        ((World.after platform setup second).service.counter kind key).fails ∧
      ((World.after platform setup first).service.counter kind key).level =
        ((World.after platform setup second).service.counter kind key).level

/-- A configuration of two devices, each with its certificate. -/
def pairText (target limit : Text) : Text :=
  "\x7b\"target_id\": \"".toList ++ target ++ "\", \"unlock_user\": \"alice\", ".toList ++
  "\"challenge_ttl\": ".toList ++ limit ++ ", \"devices\": [".toList ++
  "\x7b\"id\": \"phone\", \"public_key_pem\": \"BEGIN\", \"cert_sha256\": \"f01\"\x7d, ".toList ++
  "\x7b\"id\": \"tablet\", \"public_key_pem\": \"BEGIN\", \"cert_sha256\": \"f02\"\x7d]\x7d".toList

/-- What it says. -/
def pairMembers (limit : Json) : Dict :=
  [(py "target_id", .str (py "laptop")), (py "unlock_user", .str (py "alice")),
    (py "challenge_ttl", limit),
    (py "devices", .arr [
      .obj [(py "id", .str (py "phone")), (py "public_key_pem", .str (py "BEGIN")),
        (py "cert_sha256", .str (py "f01"))],
      .obj [(py "id", .str (py "tablet")), (py "public_key_pem", .str (py "BEGIN")),
        (py "cert_sha256", .str (py "f02"))]])]

def pairFile (limit : Text) : ConfigFile :=
  { sampleFile with content := encode (pairText "laptop".toList limit) }

/-- The service as it starts with this file. -/
def pairService (text : Text) (limit : Json) : UnlockService :=
  { sampleService (.loaded (pairFile text) (update defaults (pairMembers limit))) with
    ipBackoff := .new 3 30 3600, devBackoff := .new 3 30 3600 }

section Pair

variable {text : Text} {limit : Json}
  (parsed : parseConfig (pairFile text).content = .ok (update defaults (pairMembers limit)))

include parsed

theorem opened_pairFile : (openConfig .calm (pairFile text)).1 = .ok () := by
  rw [openConfig_calm parsed]

theorem started_pairService :
    UnlockService.new (openConfig .calm (pairFile text)).2 .fresh sampleSetup.now =
      some (pairService text limit) := by
  rw [openConfig_calm parsed]
  rfl

end Pair

def pairSetup (text : Text) (limit : Json)
    (parsed : parseConfig (pairFile text).content = .ok (update defaults (pairMembers limit))) :
    Setup :=
  { sampleSetup with
    file := pairFile text
    service := pairService text limit
    opened := opened_pairFile parsed
    started := started_pairService parsed }

/-- With a `challenge_ttl` of ten seconds. -/
def tenSeconds : Setup := pairSetup "10".toList (.int 10) (by decide +kernel)

/-- With a `challenge_ttl` that is a string. -/
def tenQuoted : Setup := pairSetup "\"10\"".toList (.str (py "10")) (by decide +kernel)

/-- With a `challenge_ttl` that is not a number. -/
def undefinedSeconds : Setup := pairSetup "NaN".toList (.float .nan) (by decide +kernel)

def phonePeer : Peer := ⟨py "100.64.0.2", .ok (some [1])⟩

def tabletPeer : Peer := ⟨py "100.64.0.9", .ok (some [2])⟩

/-- Surroundings in which the nonce is this number. -/
def answersAt (number : ℕ) : Answers :=
  { calmAnswers with
    nonce := ofText (List.replicate 30 '0' ++
      [Nat.digitChar (number / 16), Nat.digitChar (number % 16)]) }

def tabletHello : Text := "\x7b\"type\": \"hello\", \"device_id\": \"tablet\"\x7d".toList

/-- The tablet up to where it is sent its challenge. -/
def askTablet (session : ℕ) : List Label :=
  [.connect session tabletPeer .calm (answersAt session),
    .resume session (.text tabletHello) (answersAt session)]

/-- The tablet asks for a challenge and goes. -/
def leaveTablet (session : ℕ) : List Label :=
  askTablet session ++ [.resume session (.finished none) (answersAt session),
    .resume session (.raised ⟨.connectionClosed, []⟩) (answersAt session)]

def askPhone : List Label :=
  [.connect 0 phonePeer .calm calmAnswers, .resume 0 (.text sampleHello) calmAnswers]

/-- The phone up to where it waits for its response. -/
def openPhone : List Label := askPhone ++ [.resume 0 (.finished none) calmAnswers]

def phoneResponds : Label := .resume 0 (.text sampleResponse) calmAnswers

@[simp] theorem rebased_calmAnswers (seq : ℕ) : calmAnswers.rebased seq = calmAnswers := rfl

/-- Which labels of a run concern the addresses. -/
def marks (own : LockKind → PyStr → Bool) : World platform → List Label → List Bool
  | _, [] => []
  | world, label :: labels => world.concerns own label :: marks own (step world label) labels

/-- The labels that are marked. -/
def marked : List Bool → List Label → List Label
  | true :: marks, label :: labels => label :: marked marks labels
  | false :: marks, _ :: labels => marked marks labels
  | _, _ => []

theorem common_eq_marked {world : World platform} {labels : List Label}
    (plain : ∀ label ∈ marked (marks own world labels) labels, ∀ seq, label.rebased seq = label) :
    common own world labels = marked (marks own world labels) labels := by
  induction labels generalizing world with
  | nil => rfl
  | cons label labels inductionHypothesis =>
      rw [common]
      cases concerns : world.concerns own label with
      | true =>
          rw [marks, concerns, marked] at plain ⊢
          rw [List.forall_mem_cons] at plain
          have seen : world.input own label = some label := by
            rw [World.input, if_pos concerns, plain.1]
          rw [observed_cons_some seen]
          exact congrArg (label :: ·) (inductionHypothesis plain.2)
      | false =>
          rw [marks, concerns, marked] at plain ⊢
          have hidden : world.input own label = none := by
            rw [World.input, if_neg (Bool.eq_false_iff.mp concerns)]
          rw [observed_cons_none hidden]
          exact inductionHypothesis plain

theorem common_of_marks {world : World platform} {labels kept : List Label} {bits : List Bool}
    (known : marks own world labels = bits) (rest : marked bits labels = kept)
    (plain : ∀ label ∈ kept, ∀ seq, label.rebased seq = label) :
    common own world labels = kept := by
  have marks_rest : marked (marks own world labels) labels = kept := by
    rw [known, rest]
  rw [← marks_rest] at plain ⊢
  exact common_eq_marked plain

/-- While the phone unlocks the laptop, the tablet comes and goes. -/
def besideTablet : List Label :=
  leaveTablet 1 ++ openPhone ++ askTablet 2 ++ [phoneResponds]

/-- Two runs that differ in what the others do, and in how the phone fares. -/
structure Disturbs (setup : Setup) (first second : List Label) : Prop where
  separate : Along step (World.Separate phoneOnly) (World.start samplePlatform setup) first
  other : Along step (World.Separate phoneOnly) (World.start samplePlatform setup) second
  same : common phoneOnly (World.start samplePlatform setup) first =
    common phoneOnly (World.start samplePlatform setup) second
  differ : ¬ FaresAlike (py "100.64.0.2") (py "phone") samplePlatform setup first second

/-- The phone is being rejected. -/
def isRejected (world : World samplePlatform) : Bool :=
  match (world.view phoneOnly 0).map Prod.snd with
  | some (.sendRejection _ _) => true
  | _ => false

/-- What can be seen of a run that keeps apart. -/
structure Witnessed (setup : Setup) (labels : List Label) (bits : List Bool) (rejected : Bool) :
    Prop where
  separate : Along step (World.Separate phoneOnly) (World.start samplePlatform setup) labels
  marks : marks phoneOnly (World.start samplePlatform setup) labels = bits
  rejected : isRejected (World.after samplePlatform setup labels) = rejected

instance (setup : Setup) (labels : List Label) (bits : List Bool) (rejected : Bool) :
    Decidable (Witnessed setup labels bits rejected) :=
  decidable_of_iff
    (Along step (World.Separate phoneOnly) (World.start samplePlatform setup) labels ∧
      Listener.marks phoneOnly (World.start samplePlatform setup) labels = bits ∧
      isRejected (World.after samplePlatform setup labels) = rejected)
    ⟨fun holds => ⟨holds.1, holds.2.1, holds.2.2⟩,
      fun seen => ⟨seen.separate, seen.marks, seen.rejected⟩⟩

theorem Witnessed.disturbs {setup : Setup} {first second : List Label} {bits otherBits : List Bool}
    (seen : Witnessed setup first bits true) (other : Witnessed setup second otherBits false)
    (kept : marked bits first = second) (otherKept : marked otherBits second = second)
    (plain : ∀ label ∈ second, ∀ seq, label.rebased seq = label) : Disturbs setup first second where
  separate := seen.separate
  other := other.separate
  same := by
    rw [common_of_marks seen.marks kept plain, common_of_marks other.marks otherKept plain]
  differ alike := by
    have rejected := seen.rejected
    have views : (World.after samplePlatform setup first).view phoneOnly 0 =
        (World.after samplePlatform setup second).view phoneOnly 0 := alike.views 0
    rw [isRejected, views] at rejected
    have accepted := other.rejected
    rw [isRejected, rejected] at accepted
    contradiction

/-- As many challenges are asked for as the table takes, one session after the other. -/
def crowd : List Label := (List.range maxPending).flatMap fun number => leaveTablet (number + 1)

theorem disturbs_crowd : Disturbs tenSeconds (crowd ++ askPhone) askPhone := by
  have seen : Witnessed tenSeconds (crowd ++ askPhone) (List.replicate 256 false ++ [true, true])
      true := by
    decide +kernel
  have other : Witnessed tenSeconds askPhone [true, true] false := by decide +kernel
  refine seen.disturbs other rfl rfl ?_
  simp [askPhone, Label.rebased]

/-- The others do something while the phone waits with its challenge. -/
def whileWaiting (others : List Label) : List Label := openPhone ++ others ++ [phoneResponds]

/-- The tablet presents the nonce of the phone. -/
def popping : List Label :=
  askTablet 7 ++ [.resume 7 (.finished none) (answersAt 7),
    .resume 7 (.text sampleResponse) (answersAt 7)]

theorem disturbs_popping : Disturbs tenSeconds (whileWaiting popping) (whileWaiting []) := by
  have seen : Witnessed tenSeconds (whileWaiting popping)
      [true, true, true, false, false, false, false, true] true := by
    decide +kernel
  have other : Witnessed tenSeconds (whileWaiting []) [true, true, true, true] false := by
    decide +kernel
  refine seen.disturbs other rfl rfl ?_
  simp [whileWaiting, openPhone, askPhone, phoneResponds, Label.rebased]

/-- The configuration file with this target and this `challenge_ttl`. -/
def putConfig (target limit : Text) (mtime : ℕ) : Label :=
  .change (.put (encode (pairText target limit)) mtime)

/-- They do it when the target has been changed. -/
def whileChanged (others : List Label) : List Label :=
  openPhone ++ [putConfig "desktop".toList "10".toList 2] ++ others ++ [phoneResponds]

theorem disturbs_reloading : Disturbs tenSeconds
    (whileChanged [.connect 7 tabletPeer .calm (answersAt 7)]) (whileChanged []) := by
  have seen : Witnessed tenSeconds (whileChanged [.connect 7 tabletPeer .calm (answersAt 7)])
      [true, true, true, true, false, true] true := by
    decide +kernel
  have other : Witnessed tenSeconds (whileChanged []) [true, true, true, true, true] false := by
    decide +kernel
  refine seen.disturbs other rfl rfl ?_
  simp [whileChanged, putConfig, openPhone, askPhone, phoneResponds, Label.rebased]

/-- They do it before the phone comes, and when another session of its address has loaded a
`challenge_ttl` of zero; the next one loads one of ten again. -/
def whileShortened (early late : List Label) : List Label :=
  early ++ openPhone ++ [.tick 1, putConfig "laptop".toList "0".toList 2,
    .connect 5 phonePeer .calm calmAnswers] ++ late ++ [putConfig "laptop".toList "10".toList 3,
    .connect 6 phonePeer .calm calmAnswers, phoneResponds]

/-- The challenge of the tablet throws away that of the phone. -/
theorem disturbs_shortening : Disturbs tenSeconds
    (whileShortened [.connect 7 tabletPeer .calm (answersAt 7)]
      [.resume 7 (.text tabletHello) (answersAt 7)]) (whileShortened [] []) := by
  have seen : Witnessed tenSeconds
      (whileShortened [.connect 7 tabletPeer .calm (answersAt 7)]
        [.resume 7 (.text tabletHello) (answersAt 7)])
      [false, true, true, true, true, true, true, false, true, true, true] true := by
    decide +kernel
  have other : Witnessed tenSeconds (whileShortened [] []) (List.replicate 9 true) false := by
    decide +kernel
  refine seen.disturbs other rfl rfl ?_
  simp [whileShortened, putConfig, openPhone, askPhone, phoneResponds, Label.rebased]

/-- With a `challenge_ttl` that compares with no age, any other challenge is in the way. -/
theorem disturbs_quoted : Disturbs tenQuoted (askTablet 7 ++ askPhone) askPhone := by
  have seen : Witnessed tenQuoted (askTablet 7 ++ askPhone) [false, false, true, true] true := by
    decide +kernel
  have other : Witnessed tenQuoted askPhone [true, true] false := by decide +kernel
  refine seen.disturbs other rfl rfl ?_
  simp [askPhone, Label.rebased]

/-- With one that no age is above or below, the challenge of the tablet throws away that of the
phone. -/
theorem disturbs_undefined :
    Disturbs undefinedSeconds (whileWaiting (askTablet 7)) (whileWaiting []) := by
  have seen : Witnessed undefinedSeconds (whileWaiting (askTablet 7))
      [true, true, true, false, false, true] true := by
    decide +kernel
  have other : Witnessed undefinedSeconds (whileWaiting []) [true, true, true, true] false := by
    decide +kernel
  refine seen.disturbs other rfl rfl ?_
  simp [whileWaiting, openPhone, askPhone, phoneResponds, Label.rebased]

end RemoteUnlock.Listener
