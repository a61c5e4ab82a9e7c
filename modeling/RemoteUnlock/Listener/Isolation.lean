import RemoteUnlock.Common.Reload
import RemoteUnlock.Library.Unwinding
import RemoteUnlock.Listener.Accounting
import RemoteUnlock.Listener.Avoids

/-!
# Devices do not disturb each other

Two runs of the listener may differ in all that sessions from other addresses for other
devices do, and in all PAM requests.  As long as these sessions touch no challenge of the
devices and load no configuration, there is room for the challenges of the devices, and
`challenge_ttl` never grows, the sessions of the devices take the same course in both runs, and
the counters are the same.
-/

namespace RemoteUnlock.Listener

open Python Python.Items Common Audit Library

variable {Key : Type} {platform : Platform Key} {own : LockKind → PyStr → Bool} {ttl : Json}

/-! ## What two runs have in common -/

/-- The appends of a step are numbered from the first of them. -/
def Answers.rebased (seq : ℕ) (answers : Answers) : Answers :=
  { answers with disk := fun count => answers.disk (seq + count) }

def Label.rebased (seq : ℕ) : Label → Label
  | .connect session peer access answers => .connect session peer access (answers.rebased seq)
  | .resume session awaited answers => .resume session awaited (answers.rebased seq)
  | label => label

namespace World

/-- Where a session from one of the addresses waits. -/
def view (own : LockKind → PyStr → Bool) (world : World platform) (session : ℕ) :
    Option (Peer × Place) :=
  ((world.sessions session).filter fun current => own .ip current.peer.ip).map fun current =>
    (current.peer, current.place)

/-- The label is about time, the configuration file, or a session from one of the addresses. -/
def concerns (own : LockKind → PyStr → Bool) (world : World platform) : Label → Bool
  | .tick _ => true
  | .change _ => true
  | .connect _ peer _ _ => own .ip peer.ip
  | .resume session _ _ => (world.view own session).isSome
  | _ => false

/-- What goes into a step that concerns the addresses. -/
def input (own : LockKind → PyStr → Bool) (world : World platform) (label : Label) :
    Option Label :=
  if world.concerns own label then some (label.rebased world.service.audit.log.seq) else none

/-- What comes out of it: where the session waits that has taken the step. -/
def output (own : LockKind → PyStr → Bool) (world : World platform) (label : Label) :
    Option (ℕ × Place) :=
  if world.concerns own label then
    label.session.bind fun session =>
      ((step world label).view own session).map fun seen => (session, seen.2)
  else none

end World

/-- What has gone into a run that concerns the addresses. -/
def common (own : LockKind → PyStr → Bool) (world : World platform) (labels : List Label) :
    List Label :=
  observed step (World.input own) world labels

/-- The courses of the sessions from the addresses. -/
def courses (own : LockKind → PyStr → Bool) (world : World platform) (labels : List Label) :
    List (ℕ × Place) :=
  observed step (World.output own) world labels

/-! ## What is asked of a run -/

/-- A session from one of the addresses has a number of its own, does not meet the connection
cap and finds room for its challenge. -/
def World.Served (world : World platform) : Label → Prop
  | .connect session _ _ _ => world.sessions session = none ∧ world.service.Uncapped
  | .resume session awaited answers =>
      ∀ current admission deadline deviceId, world.sessions session = some current →
        current.place = .recvHello admission deadline →
        world.device session (.resume session awaited answers) = some deviceId →
          ∃ kept, Room world.service kept
  | _ => True

/-- Another session loads no configuration, and neither draws nor presents the nonce of a
challenge of one of the devices. -/
def World.Unobtrusive (own : LockKind → PyStr → Bool) (world : World platform) : Label → Prop
  | .connect _ peer access answers =>
      (connect platform answers peer access world.service).1.config = world.service.config
  | .resume _ awaited answers => ∀ nonce ∈ touchedBy awaited answers, ∀ entry,
      world.service.pending.get nonce = some entry → own .device entry.deviceId = false
  | _ => True

/-- The sessions from the addresses, and no others, are those of the devices, and all sessions
keep to what is asked of them. -/
structure World.Considerate (own : LockKind → PyStr → Bool) (ttl : Json)
    (world : World platform) (label : Label) : Prop where
  timed : item world.service.data "challenge_ttl" = .ok ttl
  apart : ∀ session current deviceId, label.session = some session →
    world.sessions session = some current → world.device session label = some deviceId →
      own .device deviceId = own .ip current.peer.ip
  served : world.concerns own label = true → world.Served label
  unobtrusive : world.concerns own label = false → world.Unobtrusive own label

/-- The value that `challenge_ttl` has after the step, if there is one, is no longer than this. -/
def World.Shortens (ttl : Json) (world : World platform) (label : Label) : Prop :=
  ∀ later, item (step world label).service.data "challenge_ttl" = .ok later → NoLonger later ttl

/-- They keep to it under the `challenge_ttl` in force, a number that does not grow. -/
def World.Orderly (own : LockKind → PyStr → Bool) (world : World platform) (label : Label) :
    Prop :=
  ∃ ttl, IsLimit ttl ∧ world.Considerate own ttl label ∧ world.Shortens ttl label

/-! ## Twin worlds -/

/-- The addresses and devices cannot tell two worlds apart. -/
structure TwinWorlds (own : LockKind → PyStr → Bool) (ttl : Json) (left right : World platform) :
    Prop where
  services : Twins own ttl left.service right.service
  views : ∀ session, left.view own session = right.view own session

/-- They cannot as long as the `challenge_ttl` in force is the limit. -/
def Alike (own : LockKind → PyStr → Bool) (left right : World platform) : Prop :=
  ∃ ttl, TwinWorlds own ttl left right ∧
    ∀ later, item left.service.data "challenge_ttl" = .ok later → NoLonger later ttl

theorem TwinWorlds.symm {left right : World platform} (twins : TwinWorlds own ttl left right) :
    TwinWorlds own ttl right left :=
  ⟨twins.services.symm, fun session => (twins.views session).symm⟩

theorem Alike.symm {left right : World platform} (alike : Alike own left right) :
    Alike own right left := by
  obtain ⟨ttl, twins, shorter⟩ := alike
  refine ⟨ttl, twins.symm, fun later configured => shorter later ?_⟩
  rw [twins.services.data]
  exact configured

/-- Worlds that are alike are twins under the `challenge_ttl` in force. -/
theorem Alike.twins {left right : World platform} (alike : Alike own left right)
    (timed : item left.service.data "challenge_ttl" = .ok ttl) : TwinWorlds own ttl left right := by
  obtain ⟨_, twins, shorter⟩ := alike
  exact ⟨twins.services.shortened (shorter ttl timed), twins.views⟩

namespace World

theorem view_setSession (world : World platform) (session : ℕ) (current : Session platform)
    (other : ℕ) :
    (world.setSession session current).view own other =
      if other = session then
        (if own .ip current.peer.ip then some (current.peer, current.place) else none)
      else world.view own other := by
  unfold view
  rw [sessions_setSession]
  by_cases same : other = session
  · rw [if_pos same, if_pos same, Option.filter_some]
    split <;> rfl
  · rw [if_neg same, if_neg same]

theorem view_eq_some_iff {world : World platform} {session : ℕ} {seen : Peer × Place} :
    world.view own session = some seen ↔
      ∃ current, world.sessions session = some current ∧ own .ip current.peer.ip = true ∧
        (current.peer, current.place) = seen := by
  simp only [view, Option.map_eq_some_iff, Option.filter_eq_some_iff, and_assoc]

theorem view_of_foreign {world : World platform} {session : ℕ} {current : Session platform}
    (found : world.sessions session = some current) (foreign : own .ip current.peer.ip = false) :
    world.view own session = none := by
  rw [view, found, Option.filter_some_neg (by simp [foreign])]
  rfl

end World

/-! ## Steps of the others -/

/-- The step of another session, or of a request, changes nothing that is looked at. -/
theorem StepCase.avoided (limit : IsLimit ttl) {before after : World platform} {label : Label}
    (moved : StepCase before label after) (considerate : before.Considerate own ttl label)
    (foreign : before.concerns own label = false) {other : World platform}
    (twins : TwinWorlds own ttl before other) : TwinWorlds own ttl after other := by
  have unobtrusive := considerate.unobtrusive foreign
  have timed := considerate.timed
  cases moved with
  | idle => exact twins
  | tick => contradiction
  | change => contradiction
  | hangUp request =>
      have avoids : Avoids own ttl [] before.service (hungUp request before.service) :=
        Avoids.of_ledger before.service _ _ _ _ _ _
      exact ⟨twins.services.avoided avoids timed (by simp), twins.views⟩
  | connect session peer access answers service next known account fresh ran =>
      have avoids : Avoids own ttl [] before.service
          (Listener.connect platform answers peer access before.service).1 :=
        connect_avoids foreign unobtrusive
      rw [ran] at avoids
      refine ⟨twins.services.avoided avoids timed (by simp), fun number => ?_⟩
      rw [World.view_setSession, ← twins.views]
      split
      next same =>
        have isForeign : own .ip peer.ip = false := foreign
        rw [if_neg (by rw [isForeign]; exact Bool.false_ne_true), same, World.view, fresh]
        rfl
      · rfl
  | resume session awaited answers current service next known account found allowed ran =>
      have isForeign : own .ip current.peer.ip = false := by
        by_contra isOwn
        have seen : before.view own session = some (current.peer, current.place) :=
          World.view_eq_some_iff.mpr ⟨current, found, by simpa using isOwn, rfl⟩
        simp [World.concerns, seen] at foreign
      have foreignDevice : ∀ deviceId,
          current.place.device before.service.data awaited = some deviceId →
            own .device deviceId = false := by
        intro deviceId isDevice
        rw [← isForeign]
        apply considerate.apart session current deviceId rfl found
        simp only [World.device, found, if_true, Option.bind_some, isDevice]
      have avoids := resume_avoids limit isForeign foreignDevice ran
      refine ⟨twins.services.avoided avoids timed unobtrusive, fun number => ?_⟩
      rw [World.view_setSession, ← twins.views]
      split
      next same =>
        rw [if_neg (by simp [isForeign]), same, World.view_of_foreign found isForeign]
      · rfl
  | pamConnect request credentials answers service next passed fresh ran =>
      have avoids := (avoids_requests own ttl [] platform).pamConnect answers request credentials
        before.service
      rw [ran] at avoids
      exact ⟨twins.services.avoided avoids timed (by simp), twins.views⟩
  | pamResume request awaited answers current service next passed found allowed ran =>
      have avoids := (avoids_requests own ttl [] platform).pamResume ran
      exact ⟨twins.services.avoided avoids timed (by simp), twins.views⟩

/-! ## Steps of their own -/

theorem Label.rebased_connect {seq : ℕ} {label : Label} {session : ℕ} {peer : Peer}
    {access : FileAccess} {answers : Answers}
    (same : label.rebased seq = .connect session peer access answers) :
    ∃ other, label = .connect session peer access other ∧ other.rebased seq = answers := by
  cases label with
  | connect => cases same; exact ⟨_, rfl, rfl⟩
  | _ => simp [Label.rebased] at same

theorem Label.rebased_resume {seq : ℕ} {label : Label} {session : ℕ} {awaited : Awaited}
    {answers : Answers} (same : label.rebased seq = .resume session awaited answers) :
    ∃ other, label = .resume session awaited other ∧ other.rebased seq = answers := by
  cases label with
  | resume => cases same; exact ⟨_, rfl, rfl⟩
  | _ => simp [Label.rebased] at same

theorem SameDraws.of_rebased {first second : Answers} {seq other : ℕ}
    (same : first.rebased seq = second.rebased other) : SameDraws first second :=
  ⟨(congrArg Answers.nonce same : _), (congrArg Answers.issuedMs same : _),
    (congrArg Answers.signature same : _)⟩

theorem Twins.rebased {left right : UnlockService} (twins : Twins own ttl left right)
    {first second : Answers}
    (same : first.rebased left.audit.log.seq = second.rebased right.audit.log.seq) :
    TwinsIn own ttl first second left right :=
  { twins with disk := fun count => congrFun (congrArg Answers.disk same) count }

/-- A session moves to the same place in both worlds. -/
theorem TwinWorlds.view_setSession {left right : World platform}
    (twins : TwinWorlds own ttl left right) {session : ℕ} {current other : Session platform}
    (samePeer : current.peer = other.peer) (samePlace : current.place = other.place)
    (number : ℕ) :
    (left.setSession session current).view own number =
      (right.setSession session other).view own number := by
  rw [World.view_setSession, World.view_setSession, samePeer, samePlace, twins.views]

theorem step_resume_of_impossible {world : World platform} {session : ℕ}
    {current : Session platform} (found : world.sessions session = some current)
    {awaited : Awaited} (impossible : possible world.service.time current.place awaited = false)
    (answers : Answers) : step world (.resume session awaited answers) = world := by
  simp only [step, found, impossible, Bool.false_eq_true, if_false]

theorem TwinWorlds.ticked (limit : IsLimit ttl) {left right : World platform}
    (twins : TwinWorlds own ttl left right) (duration : ℚ≥0) :
    TwinWorlds own ttl (step left (.tick duration)) (step right (.tick duration)) := by
  have later : left.service.time ≤ (elapsed duration left.service).time :=
    time_le_elapsed duration left.service
  refine ⟨{ twins.services with
    now := ?_, counts := fun kind => ?_, pending := fun nonce entry live => ?_ }, twins.views⟩
  · exact congrArg (· + duration) twins.services.now
  · exact (twins.services.counts kind).later later
  · refine twins.services.pending nonce entry ⟨live.1, ?_⟩
    rw [exceeds_eq_false_iff limit.ordered]
    refine atMost_of_le (sub_le_sub_right later entry.issued) ?_
    exact (exceeds_eq_false_iff limit.ordered).mp live.2

section Resumed

variable {left right : World platform} {session : ℕ} {awaited : Awaited}
  {answers otherAnswers : Answers} {current other : Session platform}

/-- A session from one of the addresses brings along what it has to. -/
theorem TwinWorlds.ready (twins : TwinWorlds own ttl left right)
    (found : left.sessions session = some current)
    (otherFound : right.sessions session = some other) (samePlace : other.place = current.place)
    (isPeer : own .ip current.peer.ip = true)
    (considerate : left.Considerate own ttl (.resume session awaited answers))
    (served : left.Served (.resume session awaited answers))
    (otherServed : right.Served (.resume session awaited otherAnswers)) :
    Ready own ttl current.place awaited left.service right.service := by
  have device : ∀ deviceId,
      current.place.device left.service.data awaited = some deviceId →
        left.device session (.resume session awaited answers) = some deviceId ∧
        right.device session (.resume session awaited otherAnswers) = some deviceId := by
    intro deviceId isDevice
    constructor
    · simp only [World.device, found, if_true, Option.bind_some, isDevice]
    · rw [← samePlace, twins.services.data] at isDevice
      simp only [World.device, otherFound, if_true, Option.bind_some, isDevice]
  refine ⟨considerate.timed, fun deviceId isDevice => ?_, ?_⟩
  · rw [considerate.apart session current deviceId rfl found (device deviceId isDevice).1]
    exact isPeer
  · intro admission deadline deviceId isPlace isDevice
    obtain ⟨here, there⟩ := device deviceId isDevice
    exact ⟨served current admission deadline deviceId found isPlace here,
      otherServed other admission deadline deviceId otherFound (samePlace.trans isPlace) there⟩

/-- A session that goes on alike takes its step alike in both worlds. -/
theorem TwinWorlds.resumed (twins : TwinWorlds own ttl left right)
    (found : left.sessions session = some current)
    (otherFound : right.sessions session = some other) (samePeer : other.peer = current.peer)
    (samePlace : other.place = current.place)
    (paired : Option.Rel (fun one another => Twins own ttl one.1 another.1 ∧ one.2 = another.2)
      (resume platform answers session current.peer current.place awaited left.service)
      (resume platform otherAnswers session current.peer current.place awaited right.service)) :
    TwinWorlds own ttl (step left (.resume session awaited answers))
      (step right (.resume session awaited otherAnswers)) := by
  have samePossible : possible right.service.time other.place awaited =
      possible left.service.time current.place awaited := by
    rw [samePlace, twins.services.time]
  cases allowed : possible left.service.time current.place awaited with
  | false =>
      rw [allowed] at samePossible
      rw [step_resume_of_impossible found allowed,
        step_resume_of_impossible otherFound samePossible]
      exact twins
  | true =>
      rw [allowed] at samePossible
      rcases step_resume found awaited answers with
        ⟨idle, ended⟩ | ⟨_, service, next, _, ran, stepped⟩
      · have stuck := ended.resolve_left (by simp [allowed])
        rw [stuck] at paired
        rcases step_resume otherFound awaited otherAnswers with
          ⟨otherIdle, _⟩ | ⟨_, _, _, _, otherRan, _⟩
        · rw [idle, otherIdle]
          exact twins
        · rw [samePeer, samePlace] at otherRan
          rw [otherRan] at paired
          cases paired
      · rw [ran] at paired
        rcases step_resume otherFound awaited otherAnswers with
          ⟨_, otherEnded⟩ | ⟨_, otherService, otherNext, _, otherRan, otherStepped⟩
        · have otherStuck := otherEnded.resolve_left (by simp [samePossible])
          rw [samePeer, samePlace] at otherStuck
          rw [otherStuck] at paired
          cases paired
        · rw [samePeer, samePlace] at otherRan
          rw [otherRan] at paired
          obtain ⟨services, sameNext⟩ :
              Twins own ttl service otherService ∧ next = otherNext := by
            cases paired with
            | some both => exact both
          rw [stepped, otherStepped]
          exact ⟨services, twins.view_setSession samePeer.symm sameNext⟩

end Resumed

/-- A step that concerns the addresses is taken alike in both worlds. -/
theorem step_twins (limit : IsLimit ttl) {left right : World platform} {first second : Label}
    (twins : TwinWorlds own ttl left right)
    (considerate : left.Considerate own ttl first) (other : right.Considerate own ttl second)
    (concerns : left.concerns own first = true) (otherConcerns : right.concerns own second = true)
    (same : first.rebased left.service.audit.log.seq =
      second.rebased right.service.audit.log.seq) :
    TwinWorlds own ttl (step left first) (step right second) := by
  have served := considerate.served concerns
  have otherServed := other.served otherConcerns
  cases first with
  | tick duration =>
      have isTick : second = .tick duration := by
        cases second <;> simp_all [Label.rebased]
      subst isTick
      exact twins.ticked limit duration
  | change change =>
      have isChange : second = .change change := by
        cases second <;> simp_all [Label.rebased]
      subst isChange
      refine ⟨{ twins.services with config := ?_ }, twins.views⟩
      exact congrArg (fun config => config.changed [change]) twins.services.config
  | hangUp => contradiction
  | pamConnect => contradiction
  | pamResume => contradiction
  | connect session peer access answers =>
      obtain ⟨otherAnswers, rfl, sameAnswers⟩ := Label.rebased_connect same.symm
      obtain ⟨fresh, uncapped⟩ := served
      obtain ⟨otherFresh, otherUncapped⟩ := otherServed
      obtain ⟨service, next, known, ran, stepped⟩ := step_connect fresh peer access answers
      obtain ⟨otherService, otherNext, otherKnown, otherRan, otherStepped⟩ :=
        step_connect otherFresh peer access otherAnswers
      have paired := connect_paired platform concerns access uncapped otherUncapped
        (twins.services.rebased sameAnswers.symm)
      rw [ran, otherRan] at paired
      obtain ⟨services, sameNext⟩ := paired
      obtain rfl : next = otherNext := sameNext
      rw [stepped, otherStepped]
      exact ⟨services, twins.view_setSession rfl rfl⟩
  | resume session awaited answers =>
      obtain ⟨otherAnswers, rfl, sameAnswers⟩ := Label.rebased_resume same.symm
      obtain ⟨seen, isSeen⟩ := Option.isSome_iff_exists.mp concerns
      obtain ⟨current, found, isPeer, rfl⟩ := World.view_eq_some_iff.mp isSeen
      rw [twins.views] at isSeen
      obtain ⟨otherCurrent, otherFound, _, sameSeen⟩ := World.view_eq_some_iff.mp isSeen
      obtain ⟨samePeer, samePlace⟩ := Prod.mk.inj sameSeen
      have ready := twins.ready found otherFound samePlace isPeer considerate served otherServed
      have paired := resume_paired (SameDraws.of_rebased sameAnswers.symm) limit isPeer session
        current.known ready (twins.services.rebased sameAnswers.symm)
      exact twins.resumed found otherFound samePeer samePlace paired

/-- The addresses and devices cannot tell worlds apart that are alike, and see the same of their
steps. -/
theorem unwinding_alike (platform : Platform Key) (own : LockKind → PyStr → Bool) :
    Unwinding step (World.Orderly own) (World.input own) (World.output own)
      (fun left right : World platform => Alike own left right) where
  symm := Alike.symm
  hidden {left right label} alike orderly hidden := by
    obtain ⟨ttl, limit, considerate, shortens⟩ := orderly
    have foreign : left.concerns own label = false := by
      simpa only [World.input, ite_eq_right_iff, reduceCtorEq, imp_false, Bool.not_eq_true]
        using hidden
    have twins := (step_cases left label).avoided limit considerate foreign
      (alike.twins considerate.timed)
    refine ⟨⟨ttl, twins, shortens⟩, ?_⟩
    rw [World.output, foreign]
    rfl
  seen {left right first second} alike orderly otherOrderly isSeen same := by
    obtain ⟨ttl, limit, considerate, shortens⟩ := orderly
    obtain ⟨otherTtl, _, other, _⟩ := otherOrderly
    have twins := alike.twins considerate.timed
    obtain rfl : ttl = otherTtl := by
      have timed := other.timed
      rw [← twins.services.data, considerate.timed] at timed
      exact Except.ok.inj timed
    have concerns : left.concerns own first = true := by
      by_contra foreign
      simp [World.input, foreign] at isSeen
    have otherConcerns : right.concerns own second = true := by
      by_contra foreign
      simp [World.input, foreign, concerns] at same
    rw [World.input, World.input, if_pos concerns, if_pos otherConcerns] at same
    have sameLabel := Option.some.inj same
    have after := step_twins limit twins considerate other concerns otherConcerns sameLabel
    refine ⟨⟨ttl, after, shortens⟩, ?_⟩
    have sameSession : first.session = second.session := by
      have sessions := congrArg Label.session sameLabel
      cases first <;> cases second <;> exact sessions
    rw [World.output, World.output, if_pos concerns, if_pos otherConcerns, sameSession]
    cases second.session with
    | none => rfl
    | some session => rw [Option.bind_some, Option.bind_some, after.views]

/-- The sessions of the devices take the same course in both runs, and then wait alike, the
devices and addresses are locked out alike and further calls of the counters are answered
alike. -/
structure Isolated (own : LockKind → PyStr → Bool) (platform : Platform Key) (setup : Setup)
    (first second : List Label) : Prop where
  courses : courses own (World.start platform setup) first =
    courses own (World.start platform setup) second
  views : ∀ session, (World.after platform setup first).view own session =
    (World.after platform setup second).view own session
  left : ∀ kind key, own kind key = true →
    (World.after platform setup first).service.left kind key =
      (World.after platform setup second).service.left kind key
  answers : ∀ kind (call : Backoff.Call), own kind call.key = true →
    call.now = (World.after platform setup first).service.time →
      ((World.after platform setup first).service.backoff kind).answer call =
        ((World.after platform setup second).service.backoff kind).answer call

theorem isolated_of_alike {setup : Setup} {first second : List Label}
    (alike : Alike own (World.after platform setup first) (World.after platform setup second))
    (courses : courses own (World.start platform setup) first =
      Listener.courses own (World.start platform setup) second) :
    Isolated own platform setup first second := by
  obtain ⟨_, twins, _⟩ := alike
  refine ⟨courses, twins.views, fun kind key isOwn => twins.services.left_eq isOwn, ?_⟩
  intro kind call isOwn isNow
  refine (twins.services.counts kind).answer isNow ?_ isOwn
  exact UnlockService.time_nonneg _

theorem alike_refl (own : LockKind → PyStr → Bool) (world : World platform) :
    Alike own world world := by
  have twins : ∀ ttl, TwinWorlds own ttl world world :=
    fun ttl => ⟨.refl own ttl world.service, fun _ => rfl⟩
  cases configured : item world.service.data "challenge_ttl" with
  | ok ttl =>
      refine ⟨ttl, twins ttl, fun later same => ?_⟩
      obtain rfl : ttl = later := Except.ok.inj (configured.symm.trans same)
      exact fun _ => id
  | error exc =>
      refine ⟨.null, twins .null, fun later same => ?_⟩
      rw [configured] at same
      contradiction

/-- Runs that have the same in common for the addresses go alike for them, whatever the other
sessions and the requests do. -/
theorem isolated_of_orderly (platform : Platform Key) (setup : Setup)
    {first second : List Label}
    (orderly : Along step (World.Orderly own) (World.start platform setup) first)
    (other : Along step (World.Orderly own) (World.start platform setup) second)
    (same : common own (World.start platform setup) first =
      common own (World.start platform setup) second) :
    Isolated own platform setup first second := by
  obtain ⟨alike, courses⟩ :=
    (unwinding_alike platform own).runs (alike_refl own _) orderly other same
  exact isolated_of_alike alike courses

/-- An address, and the device that connects from it. -/
def alone (ip device : PyStr) : LockKind → PyStr → Bool
  | .ip, key => key == ip
  | .device, key => key == device

/-- The phone and its address. -/
def phoneOnly : LockKind → PyStr → Bool := alone (py "100.64.0.2") (py "phone")

/-- A session from another address that sends no hello, and a helper. -/
def strangerLabels : List Label :=
  [.connect 7 ⟨py "100.64.0.9", .ok none⟩ .calm calmAnswers,
    .pamConnect 0 (.ok ⟨1, 0⟩) calmAnswers, .resume 7 (.text "[]".toList) calmAnswers]

/-- It is configured that challenges live for ten seconds. -/
def World.isTimed (world : World samplePlatform) : Bool :=
  match item world.service.data "challenge_ttl" with
  | .ok (.int limit) => limit == 10
  | _ => false

theorem World.timed_of_isTimed {world : World samplePlatform} (isTimed : world.isTimed = true) :
    item world.service.data "challenge_ttl" = .ok (.int 10) := by
  unfold World.isTimed at isTimed
  split at isTimed
  next limit isLimit => rw [isLimit, eq_of_beq isTimed]
  · contradiction

/-- What can be seen of a step that keeps to what is asked of it. -/
def World.seemsConsiderate (world : World samplePlatform) (label : Label) : Bool :=
  world.isTimed && (step world label).isTimed &&
  (match label.session with
    | some session => ((world.sessions session).all fun current =>
        (world.device session label).all fun deviceId =>
          phoneOnly .device deviceId == phoneOnly .ip current.peer.ip)
    | none => true) &&
  match label with
    | .connect session _ _ _ => (world.sessions session).isNone &&
        world.service.config.config.mtime == some world.service.config.file.mtime &&
        match item world.service.data "max_connections" with
          | .ok cap => Json.atLeast world.service.active cap == some false
          | .error _ => false
    | .resume _ awaited answers =>
        if world.concerns phoneOnly label then
          match prunePending world.service.time (.int 10) world.service.pending with
          | .ok kept => decide (kept.items.length < maxPending)
          | .error _ => false
        else (touchedBy awaited answers).all fun nonce =>
          (world.service.pending.get nonce).all fun entry =>
            !phoneOnly .device entry.deviceId
    | _ => true

theorem World.considerate_of_seems {world : World samplePlatform} {label : Label}
    (seems : world.seemsConsiderate label = true) :
    world.Considerate phoneOnly (.int 10) label := by
  simp only [World.seemsConsiderate, Bool.and_eq_true] at seems
  obtain ⟨⟨⟨timed, _⟩, apart⟩, rest⟩ := seems
  have isTimed := World.timed_of_isTimed timed
  refine ⟨isTimed, ?_, ?_, ?_⟩
  · intro session current deviceId isSession found isDevice
    rw [isSession] at apart
    simp only [found, isDevice, Option.all_some] at apart
    exact eq_of_beq apart
  · intro concerns
    cases label with
    | connect session peer access answers =>
        simp only [Bool.and_eq_true, Option.isNone_iff_eq_none] at rest
        refine ⟨rest.1.1, ?_⟩
        rw [UnlockService.Uncapped]
        cases cap : item world.service.data "max_connections" with
        | error exc => simp [Except.map]
        | ok value =>
            have below := rest.2
            rw [cap] at below
            simp [Except.map, eq_of_beq below]
    | resume session awaited answers =>
        intro current admission deadline deviceId found isPlace isDevice
        simp only [if_pos concerns] at rest
        split at rest
        next kept pruned => exact ⟨kept, _, isTimed, pruned, of_decide_eq_true rest⟩
        · contradiction
    | _ => trivial
  · intro foreign
    cases label with
    | connect session peer access answers =>
        simp only [Bool.and_eq_true] at rest
        have current := reloadIfChanged_of_current access (not_not_intro (eq_of_beq rest.1.2))
        have ran : connect samplePlatform answers peer access world.service = (_, _) := rfl
        rcases connect_config ran with ⟨same, _⟩ | reloaded
        · exact same
        · exact reloaded.trans current
    | resume session awaited answers =>
        intro nonce touched entry found
        simp only [if_neg (Bool.eq_false_iff.mp foreign), List.all_eq_true] at rest
        have isForeign := rest nonce touched
        rw [found, Option.all_some, Bool.not_eq_true'] at isForeign
        exact isForeign
    | _ => trivial

theorem World.orderly_of_seems {world : World samplePlatform} {label : Label}
    (seems : world.seemsConsiderate label = true) : world.Orderly phoneOnly label := by
  have limit : IsLimit (.int 10) :=
    ⟨fun same => by contradiction, fun _ same => by contradiction⟩
  refine ⟨.int 10, limit, World.considerate_of_seems seems, fun later configured => ?_⟩
  simp only [World.seemsConsiderate, Bool.and_eq_true] at seems
  rw [World.timed_of_isTimed seems.1.1.2] at configured
  exact Except.ok.inj configured ▸ fun _ => id

/-- The session of the phone goes the same way whether or not another one has gone before. -/
theorem isolated_strangerLabels :
    Isolated phoneOnly samplePlatform sampleSetup (strangerLabels ++ openSession 0)
      (openSession 0) := by
  have seems : Along step (fun world label => world.seemsConsiderate label = true)
      (World.start samplePlatform sampleSetup) (strangerLabels ++ openSession 0) := by
    decide +kernel
  have otherSeems : Along step (fun world label => world.seemsConsiderate label = true)
      (World.start samplePlatform sampleSetup) (openSession 0) := by
    decide +kernel
  apply isolated_of_orderly samplePlatform sampleSetup
    (seems.imp fun _ _ _ => World.orderly_of_seems)
    (otherSeems.imp fun _ _ _ => World.orderly_of_seems)
  have foreign : Along step (fun world label => world.concerns phoneOnly label = false)
      (World.start samplePlatform sampleSetup) strangerLabels := by
    decide +kernel
  have own : Along step (fun world label => world.concerns phoneOnly label = true)
      (run step (World.start samplePlatform sampleSetup) strangerLabels) (openSession 0) := by
    decide +kernel
  have otherOwn : Along step (fun world label => world.concerns phoneOnly label = true)
      (World.start samplePlatform sampleSetup) (openSession 0) := by
    decide +kernel
  have plain : ∀ world : World samplePlatform, ∀ label ∈ openSession 0,
      world.concerns phoneOnly label = true → world.input phoneOnly label = some label := by
    intro world label membership concerns
    rw [World.input, if_pos concerns]
    simp only [openSession, List.mem_cons, List.not_mem_nil, or_false] at membership
    rcases membership with rfl | rfl | rfl <;> rfl
  rw [common, common, observed_append, observed_of_hidden, List.nil_append,
    observed_of_along (own.imp plain), observed_of_along (otherOwn.imp plain)]
  apply foreign.imp
  intro world label _ isForeign
  rw [World.input, if_neg (Bool.eq_false_iff.mp isForeign)]

end RemoteUnlock.Listener
