import RemoteUnlock.Listener.ChallengeStore
import RemoteUnlock.Listener.Charges
import RemoteUnlock.Listener.Counter
import RemoteUnlock.Python.Paired

/-!
# Two services that some addresses and devices cannot tell apart

Services are twins for some keys if they have the same configuration and clock, count the
failures of these keys alike and hold the same unexpired challenges of their devices.  Every
operation for one of the keys ends alike on twins and leaves twins, whatever else is in the
table of pending challenges as long as there is room in it, and however many entries the
audit logs have.
-/

namespace RemoteUnlock.Listener

open Python Python.Items Common Audit Library

/-! ## Counters -/

namespace Backoff

/-- Both records of a key agree with one counter that is never pruned. -/
def SameCount (limits : Limits) (now : ℚ) (one other : Counter) : Prop :=
  ∃ counter, Agrees limits now one counter ∧ Agrees limits now other counter

/-- The counters of some keys are the same. -/
structure SameCounts (keys : PyStr → Bool) (now : ℚ) (one other : Backoff) : Prop where
  limits : one.limits = other.limits
  counters : ∀ key, keys key = true →
    SameCount one.limits now (one.state.get key) (other.state.get key)

section SameCounts

variable {keys : PyStr → Bool} {now : ℚ} {one other : Backoff}

theorem SameCounts.refl (keys : PyStr → Bool) (now : ℚ) (backoff : Backoff) :
    SameCounts keys now backoff backoff :=
  ⟨rfl, fun _ _ => ⟨_, agrees_refl _ _ _, agrees_refl _ _ _⟩⟩

theorem SameCounts.symm (same : SameCounts keys now one other) : SameCounts keys now other one := by
  refine ⟨same.limits.symm, fun key isKey => ?_⟩
  obtain ⟨counter, agrees, otherAgrees⟩ := same.counters key isKey
  rw [← same.limits]
  exact ⟨counter, otherAgrees, agrees⟩

theorem SameCounts.later (same : SameCounts keys now one other) {later : ℚ}
    (order : now ≤ later) : SameCounts keys later one other := by
  refine ⟨same.limits, fun key isKey => ?_⟩
  obtain ⟨counter, agrees, otherAgrees⟩ := same.counters key isKey
  exact ⟨counter, agrees.later order, otherAgrees.later order⟩

/-- A call for another key leaves the counters as they are. -/
theorem SameCounts.step_left (same : SameCounts keys now one other) {call : Call}
    (isNow : call.now = now) (foreign : keys call.key = false) :
    SameCounts keys now (one.step call) other := by
  refine ⟨(limits_step one call).trans same.limits, fun key isKey => ?_⟩
  obtain ⟨counter, agrees, otherAgrees⟩ := same.counters key isKey
  obtain ⟨keep, stale, found⟩ := get_step one call key
  have different : key ≠ call.key := by
    rintro rfl
    rw [isKey] at foreign
    contradiction
  rw [isNow] at stale
  rw [limits_step, found, if_neg different]
  exact ⟨counter, agrees.filter stale, otherAgrees⟩

/-- The same call keeps them the same. -/
theorem SameCounts.step (same : SameCounts keys now one other) {call : Call}
    (isNow : call.now = now) (started : 0 ≤ now) :
    SameCounts keys now (one.step call) (other.step call) := by
  refine ⟨by rw [limits_step, limits_step, same.limits], fun key isKey => ?_⟩
  obtain ⟨counter, agrees, otherAgrees⟩ := same.counters key isKey
  obtain ⟨keep, stale, found⟩ := get_step one call key
  obtain ⟨otherKeep, otherStale, otherFound⟩ := get_step other call key
  rw [isNow] at stale otherStale
  rw [← same.limits] at otherStale otherFound
  rw [limits_step, found, otherFound]
  by_cases own : key = call.key
  · rw [if_pos own, if_pos own, ← own]
    exact ⟨_, (agrees.step started isNow).filter stale,
      (otherAgrees.step started isNow).filter otherStale⟩
  · rw [if_neg own, if_neg own]
    exact ⟨counter, agrees.filter stale, otherAgrees.filter otherStale⟩

/-- A call for one of the keys is answered alike. -/
theorem SameCounts.answer (same : SameCounts keys now one other) {call : Call}
    (isNow : call.now = now) (started : 0 ≤ now) (isKey : keys call.key = true) :
    one.answer call = other.answer call := by
  obtain ⟨counter, agrees, otherAgrees⟩ := same.counters call.key isKey
  rw [answer_eq, answer_eq, ← same.limits, agrees.answer started isNow,
    otherAgrees.answer started isNow]

theorem SameCounts.remaining (same : SameCounts keys now one other) (started : 0 ≤ now)
    {key : PyStr} (isKey : keys key = true) :
    one.remaining now key = other.remaining now key := by
  have answered : one.answer ⟨now, key, .remaining⟩ = other.answer ⟨now, key, .remaining⟩ :=
    same.answer rfl started isKey
  exact Answer.seconds.inj answered

/-- A failure finds the same failures to count on, and the next lockout is as long. -/
theorem SameCounts.takeUp (same : SameCounts keys now one other) (started : 0 ≤ now)
    {key : PyStr} (isKey : keys key = true) :
    (one.takeUp now key).fails = (other.takeUp now key).fails ∧
      (one.takeUp now key).level = (other.takeUp now key).level := by
  obtain ⟨counter, agrees, otherAgrees⟩ := same.counters key isKey
  obtain ⟨fails, level, _⟩ := agrees.takeUp started
  obtain ⟨otherFails, otherLevel, _⟩ := otherAgrees.takeUp started
  have here : one.takeUp now key = Counter.takeUp one.limits now (one.state.get key) := rfl
  have there : other.takeUp now key = Counter.takeUp one.limits now (other.state.get key) := by
    rw [same.limits]
    rfl
  rw [here, there]
  exact ⟨fails.trans otherFails.symm, level.trans otherLevel.symm⟩

end SameCounts

end Backoff

/-! ## Twins -/

/-- A challenge of one of the devices that has not expired. -/
def Live (own : LockKind → PyStr → Bool) (ttl : Json) (now : ℚ) (entry : Pending) : Prop :=
  own .device entry.deviceId = true ∧ Json.exceeds (now - entry.issued) ttl = some false

/-- A value that every age can be compared with, and not NaN. -/
structure IsLimit (ttl : Json) : Prop where
  ordered : ttl ≠ .float .nan
  compares : ∀ age, Json.exceeds age ttl ≠ none

/-- What one limit lets through, the other one does. -/
def NoLonger (limit other : Json) : Prop :=
  ∀ age, Json.exceeds age limit = some false → Json.exceeds age other = some false

/-- Some keys cannot tell two services apart. -/
structure Twins (own : LockKind → PyStr → Bool) (ttl : Json) (left right : UnlockService) :
    Prop where
  config : left.config = right.config
  now : left.now = right.now
  counts : ∀ kind,
    (left.backoff kind).SameCounts (own kind) left.time (right.backoff kind)
  stamps : ∀ kind key, own kind key = true →
    left.lastLockAudit.get (kind, key) = right.lastLockAudit.get (kind, key)
  pending : ∀ nonce entry, Live own ttl left.time entry →
    (left.pending.get nonce = some entry ↔ right.pending.get nonce = some entry)

/-- Twins whose next appends end alike. -/
structure TwinsIn (own : LockKind → PyStr → Bool) (ttl : Json) (first second : Answers)
    (left right : UnlockService) : Prop extends Twins own ttl left right where
  disk : ∀ count, first.disk (left.audit.log.seq + count) =
    second.disk (right.audit.log.seq + count)

section Twins

variable {own : LockKind → PyStr → Bool} {ttl : Json} {left right : UnlockService}

theorem Twins.time (twins : Twins own ttl left right) : left.time = right.time := by
  unfold UnlockService.time
  rw [twins.now]

theorem Twins.data (twins : Twins own ttl left right) : left.data = right.data := by
  unfold UnlockService.data
  rw [twins.config]

theorem Twins.left_eq (twins : Twins own ttl left right) {kind : LockKind} {key : PyStr}
    (isOwn : own kind key = true) : left.left kind key = right.left kind key := by
  unfold UnlockService.left
  rw [← twins.time]
  exact (twins.counts kind).remaining left.time_nonneg isOwn

theorem Twins.refl (own : LockKind → PyStr → Bool) (ttl : Json) (service : UnlockService) :
    Twins own ttl service service :=
  ⟨rfl, rfl, fun _ => .refl _ _ _, fun _ _ _ => rfl, fun _ _ _ => Iff.rfl⟩

theorem Twins.symm (twins : Twins own ttl left right) : Twins own ttl right left where
  config := twins.config.symm
  now := twins.now.symm
  counts kind := twins.time ▸ (twins.counts kind).symm
  stamps kind key isOwn := (twins.stamps kind key isOwn).symm
  pending nonce entry live := (twins.pending nonce entry (twins.time ▸ live)).symm

/-- Under a shorter limit there are fewer challenges to compare. -/
theorem Twins.shortened (twins : Twins own ttl left right) {limit : Json}
    (shorter : NoLonger limit ttl) : Twins own limit left right :=
  { twins with
    pending := fun nonce entry live => twins.pending nonce entry ⟨live.1, shorter _ live.2⟩ }

end Twins

/-! ## Operations -/

section Operations

variable {Key : Type} {platform : Platform Key} {own : LockKind → PyStr → Bool} {ttl : Json}
  {first second : Answers} {left right : UnlockService}

/-- How a call of `append` ends depends on its file operations alone. -/
theorem append_sameOutcome (sha : Sha256) (io : Io) (timestamp event : PyStr)
    (data : List (PyStr × Json)) (state : LogState) (otherTimestamp otherEvent : PyStr)
    (otherData : List (PyStr × Json)) (other : LogState) :
    Py.SameOutcome (fun _ _ => True) (append sha io timestamp event data state).1
      (append sha io otherTimestamp otherEvent otherData other).1 := by
  by_cases calm : io.raises = false
  · obtain ⟨entry, after, returned⟩ := append_returns sha calm timestamp event data state
    obtain ⟨otherEntry, otherAfter, otherReturned⟩ :=
      append_returns sha calm otherTimestamp otherEvent otherData other
    rw [returned, otherReturned]
    exact .ok trivial
  · have raised : ∀ timestamp event data state, (append sha io timestamp event data state).1 =
        (append sha io otherTimestamp otherEvent otherData other).1 := by
      rcases io with ⟨openRaises, write, fsyncRaises, closeRaises⟩
      cases openRaises <;> cases write <;> cases fsyncRaises <;> cases closeRaises <;>
        simp [append, openAppend, writeAppend, Py.bind_apply, Py.tryFinally, Io.raises] at calm ⊢
    rw [raised]
    exact (Py.SameOutcome.refl _).imp fun _ _ _ => trivial

theorem auditAppend_paired (event otherEvent : String) (data otherData : Dict)
    (twins : TwinsIn own ttl first second left right) :
    Py.Paired (TwinsIn own ttl first second) (fun _ _ => True)
      (auditAppend platform first event data) (auditAppend platform second otherEvent otherData)
      left right := by
  have sameDisk : first.disk left.audit.log.seq = second.disk right.audit.log.seq := twins.disk 0
  refine ⟨?_, { twins with disk := fun count => ?_ }⟩
  · simp only [auditAppend, Py.bind_apply, Py.read_apply, Py.zoom_apply, sameDisk]
    exact append_sameOutcome _ _ _ _ _ _ _ _ _ _
  · simp only [auditAppend, Py.bind_apply, Py.read_apply, Py.zoom_apply, append_counts,
      Nat.add_assoc]
    exact twins.disk (1 + count)

theorem record_paired (event otherEvent : String) (title : Option String)
    (priority : String) (tags : List String) (data otherData : Dict)
    (twins : TwinsIn own ttl first second left right) :
    Py.Paired (TwinsIn own ttl first second) (fun _ _ => True)
      (record platform first event title priority tags data)
      (record platform second otherEvent title priority tags otherData) left right := by
  unfold record
  refine Py.Paired.bind (auditAppend_paired event otherEvent data otherData twins)
    fun one other middle between _ twins => ?_
  cases title with
  | none =>
      exact Py.Paired.bind (Py.Paired.pure rfl twins) fun _ _ _ _ _ twins =>
        Py.Paired.pure trivial twins
  | some title =>
      refine Py.Paired.bind (Py.Paired.modify ?_) fun _ _ _ _ _ twins =>
        Py.Paired.pure trivial twins
      exact { twins with }

theorem configItem_paired (key : String) (twins : TwinsIn own ttl first second left right) :
    Py.Paired (TwinsIn own ttl first second) Eq (configItem key) (configItem key) left right := by
  refine ⟨?_, twins⟩
  rw [configItem, configItem, twins.data]
  exact .refl _

theorem read_paired {α β : Type} (view : UnlockService → α) (other : UnlockService → β)
    (twins : TwinsIn own ttl first second left right) :
    Py.Paired (TwinsIn own ttl first second) (fun _ _ => True) (Py.read view) (Py.read other)
      left right :=
  Py.Paired.read trivial twins

theorem time_paired (twins : TwinsIn own ttl first second left right) :
    Py.Paired (TwinsIn own ttl first second) Eq (Py.read UnlockService.time)
      (Py.read UnlockService.time) left right :=
  Py.Paired.read twins.time twins

theorem data_paired (twins : TwinsIn own ttl first second left right) :
    Py.Paired (TwinsIn own ttl first second) Eq (Py.read UnlockService.data)
      (Py.read UnlockService.data) left right :=
  Py.Paired.read twins.data twins

theorem locked_paired {key : PyStr} {kind : LockKind} (isOwn : own kind key = true)
    (twins : TwinsIn own ttl first second left right) :
    Py.Paired (TwinsIn own ttl first second) Eq (locked platform first key kind)
      (locked platform second key kind) left right := by
  unfold locked
  refine Py.Paired.bind (Py.Paired.read (twins.left_eq isOwn) twins) ?_
  rintro seconds _ middle between rfl twins
  split
  · refine Py.Paired.bind (time_paired twins) ?_
    rintro now _ middle between rfl twins
    have sameLast : (middle.lastLockAudit.get (kind, key)).getD 0 =
        (between.lastLockAudit.get (kind, key)).getD 0 := by rw [twins.stamps kind key isOwn]
    refine Py.Paired.bind (Py.Paired.read sameLast twins) ?_
    rintro last _ middle between rfl twins
    split
    · refine Py.Paired.bind (Py.Paired.modify ?_) fun _ _ _ _ _ twins => ?_
      · refine { twins with stamps := fun otherKind other isOther => ?_ }
        rw [PyDict.get_set, PyDict.get_set, twins.stamps otherKind other isOther]
      · exact Py.Paired.bind (auditAppend_paired _ _ _ _ twins) fun _ _ _ _ _ twins =>
          Py.Paired.pure rfl twins
    · exact Py.Paired.pure rfl twins
  · exact Py.Paired.pure rfl twins

/-- Both call the same method of a counter for the same key. -/
theorem Twins.called (twins : Twins own ttl left right) (kind : LockKind) (key : PyStr)
    (act : Backoff.Act) :
    ((left.backoff kind).step ⟨left.time, key, act⟩).SameCounts (own kind) left.time
      ((right.backoff kind).step ⟨right.time, key, act⟩) := by
  rw [← twins.time]
  exact (twins.counts kind).step rfl left.time_nonneg

theorem countFailure_paired {kind : LockKind} {key : PyStr} (isOwn : own kind key = true)
    (twins : TwinsIn own ttl first second left right) :
    Py.Paired (TwinsIn own ttl first second) Eq (countFailure kind key) (countFailure kind key)
      left right := by
  constructor
  · have answered : (left.backoff kind).answer ⟨left.time, key, .fail⟩ =
        (right.backoff kind).answer ⟨left.time, key, .fail⟩ :=
      (twins.counts kind).answer rfl left.time_nonneg isOwn
    have same : ((left.backoff kind).fail left.time key).1 =
        ((right.backoff kind).fail left.time key).1 := Backoff.Answer.started.inj answered
    simp only [countFailure, ← twins.time, same]
    exact .refl _
  · cases kind with
    | ip =>
        refine { twins with counts := fun other => ?_ }
        cases other with
        | ip => exact twins.called .ip key .fail
        | device => exact twins.counts .device
    | device =>
        refine { twins with counts := fun other => ?_ }
        cases other with
        | ip => exact twins.counts .ip
        | device => exact twins.called .device key .fail

theorem countDeviceFailure_paired {deviceId : Option PyStr}
    (isOwn : ∀ device ∈ deviceId, own .device device = true)
    (twins : TwinsIn own ttl first second left right) :
    Py.Paired (TwinsIn own ttl first second) Eq (countDeviceFailure deviceId)
      (countDeviceFailure deviceId) left right := by
  unfold countDeviceFailure
  split
  · exact Py.Paired.pure rfl twins
  · exact Py.Paired.pure rfl twins
  · exact countFailure_paired (isOwn _ rfl) twins

theorem clearFailures_paired (ip deviceId : PyStr)
    (twins : TwinsIn own ttl first second left right) :
    Py.Paired (TwinsIn own ttl first second) Eq (clearFailures ip deviceId)
      (clearFailures ip deviceId) left right := by
  refine Py.Paired.modify { twins with counts := fun kind => ?_ }
  cases kind with
  | ip => exact twins.called .ip ip .success
  | device => exact twins.called .device deviceId .success

theorem failStart_paired {ip : PyStr} {deviceId : Option PyStr} (isIp : own .ip ip = true)
    (isOwn : ∀ device ∈ deviceId, own .device device = true) (reason otherReason : Text)
    (twins : TwinsIn own ttl first second left right) :
    Py.Paired (TwinsIn own ttl first second) Eq (failStart platform first ip deviceId reason)
      (failStart platform second ip deviceId otherReason) left right := by
  unfold failStart
  refine Py.Paired.bind (countFailure_paired isIp twins) ?_
  rintro lockIp _ middle between rfl twins
  refine Py.Paired.bind (countDeviceFailure_paired isOwn twins) ?_
  rintro lockDev _ middle between rfl twins
  exact Py.Paired.bind (record_paired _ _ _ _ _ _ _ twins) fun _ _ _ _ _ twins =>
    Py.Paired.pure rfl twins

theorem fail_paired {peer : Peer} {deviceId : Option PyStr} (isPeer : own .ip peer.ip = true)
    (isOwn : ∀ device ∈ deviceId, own .device device = true) (reason otherReason : Text)
    (handling : Bool) (twins : TwinsIn own ttl first second left right) :
    Py.Paired (TwinsIn own ttl first second) Eq
      (fail platform first peer deviceId reason handling)
      (fail platform second peer deviceId otherReason handling) left right := by
  unfold fail
  refine Py.Paired.bind (failStart_paired isPeer isOwn reason otherReason twins) ?_
  rintro hits _ middle between rfl twins
  exact Py.Paired.pure rfl twins

theorem failRest_paired (hits : List (LockKind × PyStr))
    (twins : TwinsIn own ttl first second left right) :
    Py.Paired (TwinsIn own ttl first second) Eq (failRest platform first hits)
      (failRest platform second hits) left right := by
  induction hits generalizing left right with
  | nil => exact Py.Paired.pure rfl twins
  | cons hit hits inductionHypothesis =>
      unfold failRest
      refine Py.Paired.bind (read_paired _ _ twins) fun _ _ _ _ _ twins => ?_
      exact Py.Paired.bind (record_paired _ _ _ _ _ _ _ twins) fun _ _ _ _ _ twins =>
        inductionHypothesis twins

end Operations

/-! ## Challenges and responses -/

/-- The surroundings draw the same nonce and sign alike. -/
structure SameDraws (first second : Answers) : Prop where
  nonce : first.nonce = second.nonce
  issuedMs : first.issuedMs = second.issuedMs
  signature : first.signature = second.signature

section Challenges

variable {Key : Type} {platform : Platform Key} {own : LockKind → PyStr → Bool} {ttl : Json}
  {first second : Answers} {left right : UnlockService}

/-- What is pruned is expired. -/
theorem Twins.pruned (twins : Twins own ttl left right) (limit : IsLimit ttl)
    {kept others : PyDict PyStr Pending}
    (pruned : prunePending left.time ttl left.pending = .ok kept)
    (otherPruned : prunePending right.time ttl right.pending = .ok others) :
    Twins own ttl { left with pending := kept } { right with pending := others } := by
  refine { twins with pending := fun nonce entry live => ?_ }
  have young : Json.atMost (left.time - entry.issued) ttl = some true :=
    (exceeds_eq_false_iff limit.ordered).mp live.2
  have isIn := twins.pending nonce entry live
  constructor
  · intro found
    exact prunePending_keeps otherPruned (isIn.mp (prunePending_sound pruned found))
      (twins.time ▸ young)
  · intro found
    exact prunePending_keeps pruned (isIn.mpr (prunePending_sound otherPruned found)) young

theorem sign_paired (draws : SameDraws first second) (message : Bytes)
    (twins : TwinsIn own ttl first second left right) :
    Py.Paired (TwinsIn own ttl first second) Eq (sign first message) (sign second message) left
      right := by
  unfold sign
  rw [draws.signature]
  refine Py.Paired.bind (Py.Paired.ofExcept _ twins) ?_
  rintro signature _ middle between rfl twins
  exact Py.Paired.bind (Py.Paired.modify { twins with }) fun _ _ _ _ _ twins =>
    Py.Paired.pure rfl twins

theorem openChallenge_paired (draws : SameDraws first second) (deviceId nonce : PyStr) (now : ℚ)
    (issuedMs : ℤ) (twins : TwinsIn own ttl first second left right) :
    Py.Paired (TwinsIn own ttl first second) Eq (openChallenge first deviceId nonce now issuedMs)
      (openChallenge second deviceId nonce now issuedMs) left right := by
  unfold openChallenge
  refine Py.Paired.bind (Py.Paired.modify ?_) fun _ _ _ _ _ twins => ?_
  · refine { twins with pending := fun other entry live => ?_ }
    rw [PyDict.get_set, PyDict.get_set]
    split
    · exact Iff.rfl
    · exact twins.pending other entry live
  refine Py.Paired.bind (configItem_paired _ twins) ?_
  rintro target _ middle between rfl twins
  refine Py.Paired.bind (Py.Paired.ofExcept _ twins) ?_
  rintro message _ middle between rfl twins
  refine Py.Paired.bind (sign_paired draws message twins) ?_
  rintro signature _ middle between rfl twins
  exact Py.Paired.pure rfl twins

/-- With room in both tables a challenge is issued alike. -/
theorem issueChallenge_paired (draws : SameDraws first second) (limit : IsLimit ttl)
    (deviceId : PyStr) (timed : item left.data "challenge_ttl" = .ok ttl)
    {kept others : PyDict PyStr Pending} (room : Room left kept) (otherRoom : Room right others)
    (twins : TwinsIn own ttl first second left right) :
    Py.Paired (TwinsIn own ttl first second) Eq (issueChallenge first deviceId)
      (issueChallenge second deviceId) left right := by
  have isPruned : prunePending left.time ttl left.pending = .ok kept := by
    obtain ⟨other, configured, pruned, _⟩ := room
    obtain rfl : ttl = other := Except.ok.inj (timed.symm.trans configured)
    exact pruned
  have otherPruned : prunePending right.time ttl right.pending = .ok others := by
    obtain ⟨other, configured, pruned, _⟩ := otherRoom
    rw [twins.data] at timed
    obtain rfl : ttl = other := Except.ok.inj (timed.symm.trans configured)
    exact pruned
  refine Py.Paired.of_runs (issueChallenge_of_room room) (issueChallenge_of_room otherRoom) ?_
  rw [← draws.nonce, ← draws.issuedMs, ← twins.time]
  exact openChallenge_paired draws _ _ _ _
    { twins.toTwins.pruned limit isPruned otherPruned with disk := twins.disk }

/-- How two responses are found. -/
inductive SameVerdict : CheckResult → CheckResult → Prop where
  | refused (reason other : String) : SameVerdict (.refused reason) (.refused other)
  | accepted (nonce : PyStr) (entry : Pending) :
      SameVerdict (.accepted nonce entry) (.accepted nonce entry)

theorem SameVerdict.of_eq {one other : CheckResult} (same : one = other) :
    SameVerdict one other := by
  subst same
  cases one with
  | refused reason => exact .refused _ _
  | accepted nonce entry => exact .accepted _ _

theorem checkEntry_paired (device : Dict) (nonce : PyStr) (signature : Option Json)
    (entry : Pending) (twins : TwinsIn own ttl first second left right) :
    Py.Paired (TwinsIn own ttl first second) Eq
      (checkEntry platform device nonce signature entry)
      (checkEntry platform device nonce signature entry) left right := by
  unfold checkEntry
  refine Py.Paired.bind (Py.Paired.ofExcept _ twins) ?_
  rintro identifier _ middle between rfl twins
  split
  · exact Py.Paired.pure rfl twins
  · refine Py.Paired.bind (time_paired twins) ?_
    rintro now _ middle between rfl twins
    refine Py.Paired.bind (configItem_paired _ twins) ?_
    rintro limit _ middle between rfl twins
    refine Py.Paired.bind (Py.Paired.ofExcept _ twins) ?_
    rintro expired _ middle between rfl twins
    split
    · exact Py.Paired.pure rfl twins
    · refine Py.Paired.bind (configItem_paired _ twins) ?_
      rintro target _ middle between rfl twins
      refine Py.Paired.bind (Py.Paired.ofExcept _ twins) ?_
      rintro message _ middle between rfl twins
      refine Py.Paired.bind (Py.Paired.ofExcept _ twins) ?_
      rintro pem _ middle between rfl twins
      refine Py.Paired.bind (Py.Paired.ofExcept _ twins) ?_
      rintro key _ middle between rfl twins
      split
      · exact Py.Paired.pure rfl twins
      · exact Py.Paired.pure rfl twins

/-- A challenge of another device or an expired one is refused. -/
theorem checkEntry_of_not_live {device : Dict} {deviceId nonce : PyStr}
    {signature : Option Json} {entry : Pending} {service : UnlockService} (limit : IsLimit ttl)
    (identifier : item device "id" = .ok (.str deviceId)) (isOwn : own .device deviceId = true)
    (timed : item service.data "challenge_ttl" = .ok ttl)
    (dead : ¬ Live own ttl service.time entry) :
    ∃ reason, checkEntry platform device nonce signature entry service =
      (.ok (.refused reason), service) := by
  unfold checkEntry
  rw [identifier, Py.bind_of_ok (Py.ofExcept_apply _ _)]
  by_cases same : entry.deviceId = deviceId
  · rw [if_neg (not_not.mpr (congrArg Json.str same.symm)), Py.bind_of_ok (Py.read_apply _ _),
      Py.bind_of_ok (configItem_eq_iff.mpr ⟨timed, rfl⟩)]
    cases compares : Json.exceeds (service.time - entry.issued) ttl with
    | none => exact (limit.compares _ compares).elim
    | some expired =>
        cases expired with
        | false => exact (dead ⟨same ▸ isOwn, compares⟩).elim
        | true => exact ⟨_, rfl⟩
  · rw [if_pos fun equal => same (Json.str.inj equal).symm]
    exact ⟨_, rfl⟩

theorem popped_twins (nonce : PyStr) (twins : TwinsIn own ttl first second left right) :
    TwinsIn own ttl first second (popped nonce left) (popped nonce right) := by
  refine { twins with pending := fun other entry live => ?_ }
  simp only [popped, PyDict.get_pop]
  split
  · exact Iff.rfl
  · exact twins.pending other entry live

/-- A nonce behind which no challenge of the device is live is refused. -/
theorem checkResponse_of_not_live {device : Dict} {deviceId nonce : PyStr}
    {signature : Option Json} {service : UnlockService} (limit : IsLimit ttl)
    (matching : nonceMatches nonce ≠ false) (identifier : item device "id" = .ok (.str deviceId))
    (isOwn : own .device deviceId = true) (timed : item service.data "challenge_ttl" = .ok ttl)
    (dead : ∀ entry, service.pending.get nonce = some entry →
      ¬ Live own ttl service.time entry) :
    ∃ reason, checkResponse platform device (some (.str nonce)) signature service =
      (.ok (.refused reason), popped nonce service) := by
  simp only [checkResponse, if_neg matching]
  rw [Py.bind_of_ok (Py.read_apply _ _), Py.bind_of_ok (Py.modify_apply _ _)]
  cases found : service.pending.get nonce with
  | none => exact ⟨_, rfl⟩
  | some entry => exact checkEntry_of_not_live limit identifier isOwn timed (dead entry found)

/-- What is looked up for the same device leads to the same verdict. -/
theorem checkResponse_paired {device : Dict} {deviceId : PyStr}
    {given signature : Option Json} (limit : IsLimit ttl)
    (identifier : item device "id" = .ok (.str deviceId)) (isOwn : own .device deviceId = true)
    (timed : item left.data "challenge_ttl" = .ok ttl)
    (twins : TwinsIn own ttl first second left right) :
    Py.Paired (TwinsIn own ttl first second) SameVerdict
      (checkResponse platform device given signature)
      (checkResponse platform device given signature) left right := by
  by_cases presents : ∃ nonce, given = some (.str nonce) ∧ nonceMatches nonce ≠ false
  · obtain ⟨nonce, rfl, matching⟩ := presents
    have after := popped_twins nonce twins
    by_cases live : ∃ entry, Live own ttl left.time entry ∧ left.pending.get nonce = some entry
    · obtain ⟨entry, isLive, found⟩ := live
      simp only [checkResponse, if_neg matching]
      refine Py.Paired.of_runs (Py.bind_of_ok (Py.read_apply _ _))
        (Py.bind_of_ok (Py.read_apply _ _)) ?_
      refine Py.Paired.of_runs (Py.bind_of_ok (Py.modify_apply _ _))
        (Py.bind_of_ok (Py.modify_apply _ _)) ?_
      rw [found, (twins.pending nonce entry isLive).mp found]
      exact (checkEntry_paired device nonce signature entry after).imp fun _ _ => .of_eq
    · -- Neither table holds a challenge that could be accepted.
      obtain ⟨reason, refused⟩ := checkResponse_of_not_live limit matching identifier isOwn timed
        fun entry found isLive => live ⟨entry, isLive, found⟩
      obtain ⟨other, otherRefused⟩ := checkResponse_of_not_live limit matching identifier isOwn
        (twins.data ▸ timed) fun entry found isLive =>
          live ⟨entry, twins.time ▸ isLive,
            (twins.pending nonce entry (twins.time ▸ isLive)).mpr found⟩
      have answered : Py.Paired (TwinsIn own ttl first second) SameVerdict
          (pure (CheckResult.refused reason)) (pure (CheckResult.refused other)) (popped nonce left)
          (popped nonce right) := Py.Paired.pure (.refused _ _) after
      exact .of_runs refused otherRefused answered
  · unfold checkResponse
    split
    next nonce =>
      rw [if_pos (by_contra fun matching => presents ⟨nonce, rfl, matching⟩)]
      exact Py.Paired.pure (.refused _ _) twins
    · exact Py.Paired.pure (.refused _ _) twins

end Challenges

end RemoteUnlock.Listener
