import RemoteUnlock.Library.Runs
import RemoteUnlock.Listener.World

/-!
# The challenge store

What `check_response` accepts behind any calls of `issue_challenge` and `check_response`:
the nonce of a challenge that is young enough and that no call was given since.  The two
comparisons with `challenge_ttl`, when challenges are pruned and when a response is
checked, agree for every value but NaN.
-/

namespace RemoteUnlock.Listener

open Python Python.Items Common Audit Library

variable {Key : Type} {platform : Platform Key}

/-! ## Ages -/

/-- A challenge is no older than a configuration allows. -/
def InTime (data : Dict) (age : ℚ) : Prop :=
  ∃ ttl, item data "challenge_ttl" = .ok ttl ∧ Json.atMost age ttl = some true

/-- The two comparisons agree. -/
theorem exceeds_eq_false_iff {number : ℚ} {limit : Json} (ordered : limit ≠ .float .nan) :
    Json.exceeds number limit = some false ↔ Json.atMost number limit = some true := by
  unfold Json.exceeds Json.atMost
  split
  · contradiction
  · simp
  · cases limit.number <;> simp

theorem atMost_of_le {number lower : ℚ} {limit : Json} (order : lower ≤ number)
    (within : Json.atMost number limit = some true) : Json.atMost lower limit = some true := by
  revert within
  unfold Json.atMost
  split
  · exact id
  · exact id
  · intro within
    obtain ⟨bound, isNumber, isWithin⟩ := Option.map_eq_some_iff.mp within
    rw [isNumber, Option.map_some, decide_eq_true (order.trans (of_decide_eq_true isWithin))]

/-! ## Calls -/

/-- A call on the store, with what its surroundings answer. -/
inductive StoreCall where
  | issue (deviceId : PyStr) (answers : Answers)
  | check (device : Dict) (nonce signature : Option Json)

/-- The nonce a call draws. -/
def StoreCall.drawn : StoreCall → Option PyStr
  | .issue _ answers => some answers.nonce
  | .check _ _ _ => none

/-- The nonce a call is given. -/
def StoreCall.given : StoreCall → Option PyStr
  | .check _ (some (.str nonce)) _ => some nonce
  | _ => none

/-- A call, and the time since the one before it. -/
abbrev TimedCall := ℚ≥0 × StoreCall

/-- The service behind a call. -/
def perform (platform : Platform Key) (service : UnlockService) : TimedCall → UnlockService
  | (wait, .issue deviceId answers) => (issueChallenge answers deviceId (elapsed wait service)).2
  | (wait, .check device nonce signature) =>
      (checkResponse platform device nonce signature (elapsed wait service)).2

/-- `check_response` returns `None`. -/
def ReturnsNone (result : Except PyExc CheckResult) : Prop :=
  ∃ nonce entry, result = .ok (.accepted nonce entry)

/-- `issue_challenge` returns a challenge with a nonce. -/
def Returns (result : Except PyExc Json) (nonce : PyStr) : Prop :=
  ∃ challenge, result = .ok (.obj challenge) ∧ lookup (py "nonce") challenge = some (.str nonce)

/-- It does, or it would if signing did not raise. -/
def Offers (answers : Answers) (deviceId : PyStr) (service : UnlockService) (nonce : PyStr) :
    Prop :=
  Returns (issueChallenge answers deviceId service).1 nonce ∨
    (∃ exc, answers.signature = .error exc) ∧
      ∃ signature, Returns
        (issueChallenge { answers with signature := .ok signature } deviceId service).1 nonce

/-- A signature verifies for the response to a challenge under the key of a device. -/
def Verifies (platform : Platform Key) (data device : Dict) (nonce : PyStr) (issuedMs : ℤ)
    (deviceId : PyStr) (signature : Option Json) : Prop :=
  ∃ target message pem key, item data "target_id" = .ok target ∧
    signedMessageFor (py "response") nonce issuedMs deviceId target = .ok message ∧
    item device "public_key_pem" = .ok pem ∧ loadKey platform pem = .ok key ∧
    verifySig platform.crypto key message signature = true

/-! ## What a call does to the pending challenges -/

/-- There is room for another challenge among those that are left when old ones are pruned. -/
def Room (service : UnlockService) (kept : PyDict PyStr Pending) : Prop :=
  ∃ ttl, item service.data "challenge_ttl" = .ok ttl ∧
    prunePending service.time ttl service.pending = .ok kept ∧ kept.items.length < maxPending

theorem issueChallenge_of_room {answers : Answers} {deviceId : PyStr} {service : UnlockService}
    {kept : PyDict PyStr Pending} (room : Room service kept) :
    issueChallenge answers deviceId service =
      openChallenge answers deviceId answers.nonce service.time answers.issuedMs
        { service with pending := kept } := by
  obtain ⟨ttl, configured, pruned, fits⟩ := room
  unfold issueChallenge
  rw [Py.bind_of_ok (Py.read_apply _ _), Py.bind_of_ok (configItem_eq_iff.mpr ⟨configured, rfl⟩),
    Py.bind_of_ok (Py.read_apply _ _), pruned, Py.bind_of_ok (Py.ofExcept_apply _ _),
    Py.bind_of_ok (Py.modify_apply _ _), if_neg (not_le.mpr fits)]

/-- Without room a call raises; what it leaves pending is young enough or all there was. -/
theorem issueChallenge_of_no_room (answers : Answers) (deviceId : PyStr)
    {service : UnlockService} (full : ∀ kept, ¬ Room service kept) :
    ∃ exc pending, issueChallenge answers deviceId service =
        (.error exc, { service with pending := pending }) ∧
      (pending = service.pending ∨ ∃ ttl, item service.data "challenge_ttl" = .ok ttl ∧
        prunePending service.time ttl service.pending = .ok pending) := by
  unfold issueChallenge
  rw [Py.bind_of_ok (Py.read_apply _ _)]
  cases configured : item service.data "challenge_ttl" with
  | error exc =>
      rw [Py.bind_of_error (configItem_eq_iff.mpr ⟨configured, rfl⟩)]
      exact ⟨exc, service.pending, rfl, .inl rfl⟩
  | ok ttl =>
      rw [Py.bind_of_ok (configItem_eq_iff.mpr ⟨configured, rfl⟩),
        Py.bind_of_ok (Py.read_apply _ _)]
      cases pruned : prunePending service.time ttl service.pending with
      | error exc =>
          rw [Py.bind_of_error (Py.ofExcept_apply _ _)]
          exact ⟨exc, service.pending, rfl, .inl rfl⟩
      | ok kept =>
          have crowded : maxPending ≤ kept.items.length :=
            not_lt.mp fun fits => full kept ⟨ttl, configured, pruned, fits⟩
          rw [Py.bind_of_ok (Py.ofExcept_apply _ _), Py.bind_of_ok (Py.modify_apply _ _),
            if_pos crowded]
          exact ⟨_, kept, rfl, .inr ⟨ttl, rfl, pruned⟩⟩

theorem openChallenge_pending (answers : Answers) (deviceId nonce : PyStr) (now : ℚ)
    (issuedMs : ℤ) (service : UnlockService) :
    (openChallenge answers deviceId nonce now issuedMs service).2.pending =
      service.pending.set nonce ⟨deviceId, now, issuedMs⟩ := by
  simp only [openChallenge, insertPending, configItem, sign, Py.bind_apply, Py.modify_apply,
    Py.ofExcept_apply, UnlockService.data]
  cases item service.config.config.data "target_id" with
  | error exc => rfl
  | ok target =>
      cases built : signedMessageFor (py "challenge") nonce issuedMs deviceId target with
      | error exc => simp only [built]
      | ok message => cases signing : answers.signature <;> simp [built]

/-- A challenge is returned where its message can be built and signed. -/
theorem openChallenge_returns_iff {answers : Answers} {deviceId nonce : PyStr} {now : ℚ}
    {issuedMs : ℤ} {service : UnlockService} {other : PyStr} :
    Returns (openChallenge answers deviceId nonce now issuedMs service).1 other ↔
      other = nonce ∧ (∃ target message, item service.data "target_id" = .ok target ∧
        signedMessageFor (py "challenge") nonce issuedMs deviceId target = .ok message) ∧
      ∃ signature, answers.signature = .ok signature := by
  simp only [openChallenge, insertPending, configItem, sign, Py.bind_apply, Py.modify_apply,
    Py.ofExcept_apply, UnlockService.data]
  cases configured : item service.config.config.data "target_id" with
  | error exc => simp [Returns]
  | ok target =>
      cases built : signedMessageFor (py "challenge") nonce issuedMs deviceId target with
      | error exc => simp [Returns, built]
      | ok message =>
          cases signing : answers.signature with
          | error exc => simp [Returns, built]
          | ok signature =>
              have isNonce : lookup (py "nonce") [(py "type", Json.str (py "challenge")),
                  (py "nonce", .str nonce), (py "issued_ms", .int issuedMs),
                  (py "target_id", target), (py "server_sig", .str (ofText signature))] =
                    some (.str nonce) := rfl
              simp [Returns, built, isNonce, eq_comm]

/-- A challenge is returned where there is room and its message can be built and signed. -/
theorem returns_iff {answers : Answers} {deviceId nonce : PyStr} {service : UnlockService} :
    Returns (issueChallenge answers deviceId service).1 nonce ↔
      nonce = answers.nonce ∧ (∃ kept, Room service kept) ∧
        (∃ target message, item service.data "target_id" = .ok target ∧
          signedMessageFor (py "challenge") nonce answers.issuedMs deviceId target =
            .ok message) ∧
        ∃ signature, answers.signature = .ok signature := by
  by_cases room : ∃ kept, Room service kept
  · obtain ⟨kept, fits⟩ := room
    rw [issueChallenge_of_room fits, openChallenge_returns_iff]
    constructor
    · rintro ⟨rfl, built, signed⟩
      exact ⟨rfl, ⟨kept, fits⟩, built, signed⟩
    · rintro ⟨rfl, _, built, signed⟩
      exact ⟨rfl, built, signed⟩
  · have full : ∀ kept, ¬ Room service kept := fun kept fits => room ⟨kept, fits⟩
    obtain ⟨exc, pending, raised, _⟩ := issueChallenge_of_no_room answers deviceId full
    rw [raised]
    constructor
    · rintro ⟨challenge, returned, _⟩
      contradiction
    · rintro ⟨_, fits, _⟩
      exact (room fits).elim

/-- A challenge is offered where there is room and its message can be built. -/
theorem offers_iff {answers : Answers} {deviceId nonce : PyStr} {service : UnlockService} :
    Offers answers deviceId service nonce ↔
      nonce = answers.nonce ∧ (∃ kept, Room service kept) ∧
        ∃ target message, item service.data "target_id" = .ok target ∧
          signedMessageFor (py "challenge") nonce answers.issuedMs deviceId target =
            .ok message := by
  simp only [Offers, returns_iff]
  constructor
  · rintro (⟨same, room, built, _⟩ | ⟨_, _, same, room, built, _⟩) <;> exact ⟨same, room, built⟩
  · rintro ⟨same, room, built⟩
    cases signing : answers.signature with
    | error exc => exact .inr ⟨⟨exc, rfl⟩, [], same, room, built, [], rfl⟩
    | ok signature => exact .inl ⟨same, room, built, signature, rfl⟩

/-- What is pending behind `issue_challenge` was pending, or it is new. -/
theorem issueChallenge_source {answers : Answers} {deviceId nonce : PyStr}
    {service : UnlockService} {entry : Pending}
    (found : (issueChallenge answers deviceId service).2.pending.get nonce = some entry) :
    service.pending.get nonce = some entry ∨
      nonce = answers.nonce ∧ entry = ⟨deviceId, service.time, answers.issuedMs⟩ ∧
        ∃ kept, Room service kept := by
  by_cases room : ∃ kept, Room service kept
  · obtain ⟨kept, fits⟩ := room
    rw [issueChallenge_of_room fits, openChallenge_pending, PyDict.get_set] at found
    split at found
    next same => exact .inr ⟨same, (Option.some.inj found).symm, kept, fits⟩
    · obtain ⟨_, _, pruned, _⟩ := fits
      exact .inl (prunePending_sound pruned found)
  · have full : ∀ kept, ¬ Room service kept := fun kept fits => room ⟨kept, fits⟩
    obtain ⟨exc, pending, raised, left⟩ := issueChallenge_of_no_room answers deviceId full
    rw [raised] at found
    rcases left with rfl | ⟨ttl, _, pruned⟩
    · exact .inl found
    · exact .inl (prunePending_sound pruned found)

theorem prunePending_keeps {now : ℚ} {ttl : Json} {pending kept : PyDict PyStr Pending}
    (pruned : prunePending now ttl pending = .ok kept) {nonce : PyStr} {entry : Pending}
    (found : pending.get nonce = some entry)
    (young : Json.atMost (now - entry.issued) ttl = some true) :
    kept.get nonce = some entry := by
  unfold prunePending at pruned
  split at pruned
  · cases pruned
    rw [PyDict.get_filter, found]
    exact Option.filter_some_pos (decide_eq_true young)
  · contradiction

/-- `issue_challenge` keeps a challenge that is young enough. -/
theorem issueChallenge_retains {answers : Answers} {deviceId nonce : PyStr}
    {service : UnlockService} {entry : Pending} (found : service.pending.get nonce = some entry)
    (other : nonce ≠ answers.nonce)
    (young : InTime service.data (service.time - entry.issued)) :
    (issueChallenge answers deviceId service).2.pending.get nonce = some entry := by
  obtain ⟨limit, isLimit, within⟩ := young
  have survives : ∀ {ttl kept}, item service.data "challenge_ttl" = .ok ttl →
      prunePending service.time ttl service.pending = .ok kept →
        kept.get nonce = some entry := by
    intro ttl kept configured pruned
    obtain rfl : limit = ttl := Except.ok.inj (isLimit.symm.trans configured)
    exact prunePending_keeps pruned found within
  by_cases room : ∃ kept, Room service kept
  · obtain ⟨kept, fits⟩ := room
    rw [issueChallenge_of_room fits, openChallenge_pending, PyDict.get_set, if_neg other]
    obtain ⟨ttl, configured, pruned, _⟩ := fits
    exact survives configured pruned
  · have full : ∀ kept, ¬ Room service kept := fun kept fits => room ⟨kept, fits⟩
    obtain ⟨exc, pending, raised, left⟩ := issueChallenge_of_no_room answers deviceId full
    rw [raised]
    rcases left with rfl | ⟨ttl, configured, pruned⟩
    · exact found
    · exact survives configured pruned

/-- `check_response` pops the nonce it is given, if it has the form of one. -/
theorem checkResponse_pending (device : Dict) (given signature : Option Json)
    (service : UnlockService) :
    (checkResponse platform device given signature service).2 =
      match given with
      | some (.str nonce) => if nonceMatches nonce = false then service else popped nonce service
      | _ => service := by
  cases given with
  | none => rfl
  | some value =>
      cases value with
      | str nonce =>
          unfold checkResponse
          dsimp only
          split
          · rfl
          · rw [Py.bind_of_ok (Py.read_apply _ _), Py.bind_of_ok (Py.modify_apply _ _)]
            cases service.pending.get nonce with
            | none => rfl
            | some entry => exact (checkEntry_pure platform device nonce signature entry _).symm
      | _ => rfl

theorem checkEntry_of_checked {device : Dict} {nonce : PyStr} {signature : Option Json}
    {entry : Pending} {service : UnlockService}
    (checked : Checked platform device nonce signature entry service.time service.data) :
    checkEntry platform device nonce signature entry service =
      (.ok (.accepted nonce entry), service) := by
  obtain ⟨hasId, ⟨ttl, configured, young⟩, target, message, pem, key, isTarget, built, hasPem,
    loaded, verified⟩ := checked
  have isTtl : configItem "challenge_ttl" service = (.ok ttl, service) :=
    configItem_eq_iff.mpr ⟨configured, rfl⟩
  have isTargetItem : configItem "target_id" service = (.ok target, service) :=
    configItem_eq_iff.mpr ⟨isTarget, rfl⟩
  unfold checkEntry
  rw [hasId, Py.bind_of_ok (Py.ofExcept_apply _ _), if_neg (not_not.mpr rfl),
    Py.bind_of_ok (Py.read_apply _ _), Py.bind_of_ok isTtl, young, compared,
    Py.bind_of_ok (Py.ofExcept_apply _ _), if_neg Bool.false_ne_true, Py.bind_of_ok isTargetItem,
    built, Py.bind_of_ok (Py.ofExcept_apply _ _), hasPem, Py.bind_of_ok (Py.ofExcept_apply _ _),
    loaded, Py.bind_of_ok (Py.ofExcept_apply _ _), if_pos verified, Py.pure_apply]

/-- The checks a message has to pass do not depend on its role. -/
theorem signedMessageFor_role {role nonce deviceId : PyStr} {issuedMs : ℤ} {target : Json}
    {message : Bytes} (built : signedMessageFor role nonce issuedMs deviceId target = .ok message)
    {other : PyStr} (isRole : other = py "challenge" ∨ other = py "response") :
    nonceMatches nonce = true ∧
      ∃ message, signedMessageFor other nonce issuedMs deviceId target = .ok message := by
  unfold signedMessageFor at built
  split at built
  next targetId =>
    obtain ⟨_, isNonce, isDevice, isTarget⟩ := signedMessage_checked built
    exact ⟨isNonce, signedMessage_isOk_iff.mpr ⟨isRole, isNonce, isDevice, isTarget⟩⟩
  · split_ifs at built

/-- A response is accepted if and only if its nonce is pending and it passes the checks. -/
theorem checkResponse_returnsNone_iff {device : Dict} {given signature : Option Json}
    {service : UnlockService} :
    ReturnsNone (checkResponse platform device given signature service).1 ↔
      ∃ nonce entry, given = some (.str nonce) ∧ service.pending.get nonce = some entry ∧
        Checked platform device nonce signature entry service.time service.data := by
  constructor
  · rintro ⟨nonce, entry, accepted⟩
    obtain ⟨found, -, checked⟩ := checkResponse_accepted (Prod.ext accepted rfl)
    refine ⟨nonce, entry, ?_, found, checked⟩
    unfold checkResponse at accepted
    split at accepted
    next wanted =>
      split at accepted
      · cases accepted
      · rw [Py.bind_of_ok (Py.read_apply _ _), Py.bind_of_ok (Py.modify_apply _ _)] at accepted
        cases present : service.pending.get wanted with
        | none =>
            rw [present] at accepted
            cases accepted
        | some other =>
            simp only [present] at accepted
            obtain ⟨rfl, _⟩ := checkEntry_accepted (Prod.ext accepted rfl)
            rfl
    · cases accepted
  · rintro ⟨nonce, entry, rfl, found, checked⟩
    have there : Checked platform device nonce signature entry (popped nonce service).time
        (popped nonce service).data := checked
    obtain ⟨_, _, _, _, _, _, _, built, _⟩ := checked
    have isNonce := (signedMessageFor_role built (.inl rfl)).1
    refine ⟨nonce, entry, ?_⟩
    unfold checkResponse
    dsimp only
    rw [if_neg (by simp [isNonce]), Py.bind_of_ok (Py.read_apply _ _),
      Py.bind_of_ok (Py.modify_apply _ _), found]
    dsimp only
    rw [checkEntry_of_checked there]

/-! ## Histories of calls -/

theorem perform_calm (platform : Platform Key) (service : UnlockService) (call : TimedCall) :
    Calm (elapsed call.1 service) (perform platform service call) := by
  obtain ⟨wait, call⟩ := call
  cases call with
  | issue deviceId answers =>
      have ends : issueChallenge answers deviceId (elapsed wait service) =
        (_, perform platform service (wait, .issue deviceId answers)) := Prod.ext rfl rfl
      rcases issueChallenge_cases ends with ⟨calm, _⟩ | ⟨signed, opens, _⟩
      · exact calm.toCalm
      · exact opens.toCalm
  | check device given signature =>
      exact (checkResponse_quiet given signature (elapsed wait service)).toCalm

theorem perform_data (platform : Platform Key) (service : UnlockService) (call : TimedCall) :
    (perform platform service call).data = service.data := by
  unfold UnlockService.data
  rw [(perform_calm platform service call).config]
  rfl

theorem run_data (platform : Platform Key) (service : UnlockService) (calls : List TimedCall) :
    (run (perform platform) service calls).data = service.data :=
  run_same UnlockService.data (perform_data platform) service calls

theorem time_le_elapsed (wait : ℚ≥0) (service : UnlockService) :
    service.time ≤ (elapsed wait service).time :=
  time_le_time le_self_add

theorem time_perform (platform : Platform Key) (service : UnlockService) (call : TimedCall) :
    (perform platform service call).time = (elapsed call.1 service).time := by
  unfold UnlockService.time
  rw [(perform_calm platform service call).now]

theorem time_le_run (platform : Platform Key) (service : UnlockService) (calls : List TimedCall) :
    service.time ≤ (run (perform platform) service calls).time := by
  induction calls generalizing service with
  | nil => exact le_refl _
  | cons call calls inductionHypothesis =>
      apply (time_le_elapsed call.1 service).trans
      rw [← time_perform platform service call]
      exact inductionHypothesis _

/-- Among some calls is one of `issue_challenge`, made to a service; those behind it are
`since`. -/
structure Drawn (platform : Platform Key) (start : UnlockService) (calls : List TimedCall)
    (deviceId : PyStr) (answers : Answers) (issuing : UnlockService) (since : List TimedCall) :
    Prop where
  split : ∃ before wait, calls = before ++ (wait, .issue deviceId answers) :: since ∧
    issuing = elapsed wait (run (perform platform) start before)

theorem Drawn.cons {start issuing : UnlockService} {calls since : List TimedCall}
    {deviceId : PyStr} {answers : Answers} {call : TimedCall}
    (drawn : Drawn platform (perform platform start call) calls deviceId answers issuing since) :
    Drawn platform start (call :: calls) deviceId answers issuing since := by
  obtain ⟨before, wait, rfl, rfl⟩ := drawn.split
  exact ⟨call :: before, wait, rfl, rfl⟩

/-- A call keeps pending what it does not draw, is not given and does not find too old. -/
theorem perform_retains {service : UnlockService} {call : TimedCall} {nonce : PyStr}
    {entry : Pending} (found : service.pending.get nonce = some entry)
    (ungiven : call.2.given ≠ some nonce) (undrawn : call.2.drawn ≠ some nonce)
    (young : InTime service.data ((elapsed call.1 service).time - entry.issued)) :
    (perform platform service call).pending.get nonce = some entry := by
  obtain ⟨wait, call⟩ := call
  cases call with
  | issue deviceId answers =>
      have there : (elapsed wait service).pending.get nonce = some entry := found
      refine issueChallenge_retains there ?_ young
      rintro rfl
      exact undrawn rfl
  | check device given signature =>
      rw [perform, checkResponse_pending]
      split
      next other =>
        split
        · exact found
        · change (service.pending.pop other).get nonce = some entry
          rw [PyDict.get_pop, if_neg]
          · exact found
          · rintro rfl
            exact ungiven rfl
      · exact found

theorem run_retains {service : UnlockService} {calls : List TimedCall} {nonce : PyStr}
    {entry : Pending} (found : service.pending.get nonce = some entry)
    (unused : ∀ call ∈ calls, call.2.given ≠ some nonce ∧ call.2.drawn ≠ some nonce)
    (young : InTime service.data
      ((run (perform platform) service calls).time - entry.issued)) :
    (run (perform platform) service calls).pending.get nonce = some entry := by
  induction calls generalizing service with
  | nil => exact found
  | cons call calls inductionHypothesis =>
      rw [List.forall_mem_cons] at unused
      obtain ⟨ttl, configured, within⟩ := young
      have later : (elapsed call.1 service).time ≤
          (run (perform platform) service (call :: calls)).time := by
        rw [← time_perform platform service call]
        exact time_le_run platform _ calls
      have now : InTime service.data ((elapsed call.1 service).time - entry.issued) :=
        ⟨ttl, configured, atMost_of_le (sub_le_sub_right later _) within⟩
      apply inductionHypothesis (perform_retains found unused.1.1 unused.1.2 now) unused.2
      rw [perform_data]
      exact ⟨ttl, configured, within⟩

/-- What is pending behind a call was pending and is not given to it, or it has just become
pending. -/
theorem perform_source {service : UnlockService} {call : TimedCall} {nonce : PyStr}
    {entry : Pending} (wellFormed : nonceMatches nonce = true)
    (found : (perform platform service call).pending.get nonce = some entry) :
    (service.pending.get nonce = some entry ∧ call.2.given ≠ some nonce) ∨
      ∃ deviceId answers kept, call.2 = .issue deviceId answers ∧ nonce = answers.nonce ∧
        entry = ⟨deviceId, (elapsed call.1 service).time, answers.issuedMs⟩ ∧
        Room (elapsed call.1 service) kept := by
  obtain ⟨wait, call⟩ := call
  cases call with
  | issue deviceId answers =>
      rcases issueChallenge_source found with old | ⟨same, isEntry, kept, fits⟩
      · exact .inl ⟨old, nofun⟩
      · exact .inr ⟨deviceId, answers, kept, rfl, same, isEntry, fits⟩
  | check device given signature =>
      left
      rw [perform, checkResponse_pending] at found
      split at found
      next other =>
        split at found
        next malformed =>
          refine ⟨found, ?_⟩
          rintro ⟨⟩
          rw [wellFormed] at malformed
          contradiction
        · change (service.pending.pop other).get nonce = some entry at found
          rw [PyDict.get_pop] at found
          split at found
          · contradiction
          next different =>
            refine ⟨found, ?_⟩
            rintro ⟨⟩
            exact different rfl
      next other =>
        refine ⟨found, ?_⟩
        intro isGiven
        unfold StoreCall.given at isGiven
        split at isGiven
        next text same =>
          cases same
          exact other _ rfl
        · contradiction

/-- What is pending behind some calls was pending, or one of them drew it; none since was given
it. -/
theorem run_source {start : UnlockService} {calls : List TimedCall} {nonce : PyStr}
    {entry : Pending} (wellFormed : nonceMatches nonce = true)
    (found : (run (perform platform) start calls).pending.get nonce = some entry) :
    (start.pending.get nonce = some entry ∧ ∀ call ∈ calls, call.2.given ≠ some nonce) ∨
      ∃ deviceId answers issuing since kept,
        Drawn platform start calls deviceId answers issuing since ∧ nonce = answers.nonce ∧
        entry = ⟨deviceId, issuing.time, answers.issuedMs⟩ ∧ Room issuing kept ∧
        ∀ call ∈ since, call.2.given ≠ some nonce := by
  induction calls generalizing start with
  | nil => exact .inl ⟨found, nofun⟩
  | cons call calls inductionHypothesis =>
      rcases inductionHypothesis found with ⟨old, unused⟩ |
        ⟨deviceId, answers, issuing, since, kept, drawn, rest⟩
      · rcases perform_source wellFormed old with ⟨older, ungiven⟩ |
          ⟨deviceId, answers, kept, isIssue, same, isEntry, fits⟩
        · exact .inl ⟨older, List.forall_mem_cons.mpr ⟨ungiven, unused⟩⟩
        · refine .inr ⟨deviceId, answers, _, calls, kept, ⟨[], call.1, ?_, rfl⟩, same, isEntry,
            fits, unused⟩
          rw [← isIssue]
          rfl
      · exact .inr ⟨deviceId, answers, issuing, since, kept, drawn.cons, rest⟩

/-! ## What is accepted -/

/-- A challenge was offered for the device, is young enough and was not presented since, and the
signature verifies for it. -/
def Acceptable (platform : Platform Key) (start : UnlockService) (calls : List TimedCall)
    (now : ℚ) (device : Dict) (nonce : PyStr) (signature : Option Json) : Prop :=
  ∃ deviceId answers issuing since, Drawn platform start calls deviceId answers issuing since ∧
    Offers answers deviceId issuing nonce ∧ item device "id" = .ok (.str deviceId) ∧
    InTime start.data (now - issuing.time) ∧ (∀ call ∈ since, call.2.given ≠ some nonce) ∧
    Verifies platform start.data device nonce answers.issuedMs deviceId signature

/-- Behind a call that draws a nonce no other one draws it. -/
theorem Drawn.undrawn {start issuing : UnlockService} {calls since : List TimedCall}
    {deviceId : PyStr} {answers : Answers}
    (drawn : Drawn platform start calls deviceId answers issuing since)
    (distinct : (calls.filterMap fun call => call.2.drawn).Nodup) :
    ∀ call ∈ since, call.2.drawn ≠ some answers.nonce := by
  obtain ⟨before, wait, rfl, -⟩ := drawn.split
  intro call membership again
  rw [List.filterMap_append] at distinct
  have single : (answers.nonce :: since.filterMap fun call => call.2.drawn).Nodup :=
    (List.nodup_append.mp distinct).2.1
  exact (List.nodup_cons.mp single).1 (List.mem_filterMap.mpr ⟨call, membership, again⟩)

theorem Drawn.data {start issuing : UnlockService} {calls since : List TimedCall}
    {deviceId : PyStr} {answers : Answers}
    (drawn : Drawn platform start calls deviceId answers issuing since) :
    issuing.data = start.data ∧ (issueChallenge answers deviceId issuing).2.data = start.data := by
  obtain ⟨before, wait, rfl, rfl⟩ := drawn.split
  have same := run_data platform start before
  have performed := perform_data platform (run (perform platform) start before)
    (wait, .issue deviceId answers)
  exact ⟨same, performed.trans same⟩

theorem Drawn.run_eq {start issuing : UnlockService} {calls since : List TimedCall}
    {deviceId : PyStr} {answers : Answers}
    (drawn : Drawn platform start calls deviceId answers issuing since) :
    run (perform platform) start calls =
      run (perform platform) (issueChallenge answers deviceId issuing).2 since := by
  obtain ⟨before, wait, rfl, rfl⟩ := drawn.split
  rw [run_append, run_cons]
  rfl

/-- `check_response` accepts what was offered, young and not presented since, and nothing
else. -/
theorem returnsNone_iff_acceptable (platform : Platform Key) (start : UnlockService)
    (nothing : start.pending = .empty)
    (ordered : item start.data "challenge_ttl" ≠ .ok (.float .nan)) (calls : List TimedCall)
    (distinct : (calls.filterMap fun call => call.2.drawn).Nodup) (wait : ℚ≥0) (device : Dict)
    (given signature : Option Json) :
    ReturnsNone (checkResponse platform device given signature
        (elapsed wait (run (perform platform) start calls))).1 ↔
      ∃ nonce, given = some (.str nonce) ∧ Acceptable platform start calls
        (elapsed wait (run (perform platform) start calls)).time device nonce signature := by
  have sameData : (elapsed wait (run (perform platform) start calls)).data = start.data :=
    run_data platform start calls
  have agrees : ∀ age, (∃ ttl, item start.data "challenge_ttl" = .ok ttl ∧
      Json.exceeds age ttl = some false) ↔ InTime start.data age := by
    intro age
    apply exists_congr
    intro ttl
    apply and_congr_right
    rintro configured
    apply exceeds_eq_false_iff
    rintro rfl
    exact ordered configured
  rw [checkResponse_returnsNone_iff]
  constructor
  · rintro ⟨nonce, entry, rfl, found, hasId, inTime, verified⟩
    rw [sameData] at inTime verified
    obtain ⟨target, message, pem, key, isTarget, built, verifies⟩ := verified
    obtain ⟨wellFormed, challenge, builds⟩ := signedMessageFor_role built (.inl rfl)
    rcases run_source wellFormed found with ⟨old, _⟩ |
      ⟨deviceId, answers, issuing, since, kept, drawn, rfl, rfl, fits, unused⟩
    · rw [nothing] at old
      exact nomatch old
    · have offers : Offers answers deviceId issuing answers.nonce := by
        apply offers_iff.mpr
        refine ⟨rfl, ⟨kept, fits⟩, target, challenge, ?_, builds⟩
        rw [drawn.data.1]
        exact isTarget
      exact ⟨answers.nonce, rfl, deviceId, answers, issuing, since, drawn, offers, hasId,
        (agrees _).mp inTime, unused, target, message, pem, key, isTarget, built, verifies⟩
  · rintro ⟨nonce, rfl, deviceId, answers, issuing, since, drawn, offers, hasId, inTime, unused,
      verified⟩
    obtain ⟨rfl, ⟨kept, fits⟩, -⟩ := offers_iff.mp offers
    have opened : (issueChallenge answers deviceId issuing).2.pending.get answers.nonce =
        some ⟨deviceId, issuing.time, answers.issuedMs⟩ := by
      rw [issueChallenge_of_room fits, openChallenge_pending, PyDict.get_set_self]
    have young : InTime (issueChallenge answers deviceId issuing).2.data
        ((run (perform platform) (issueChallenge answers deviceId issuing).2 since).time -
          issuing.time) := by
      obtain ⟨ttl, configured, within⟩ := inTime
      rw [drawn.data.2, ← drawn.run_eq]
      exact ⟨ttl, configured, atMost_of_le (sub_le_sub_right (time_le_elapsed wait _) _) within⟩
    have pending := run_retains opened
      (fun call membership => ⟨unused call membership, drawn.undrawn distinct call membership⟩)
      young
    refine ⟨answers.nonce, ⟨deviceId, issuing.time, answers.issuedMs⟩, rfl, ?_, hasId, ?_, ?_⟩
    · rw [← drawn.run_eq] at pending
      exact pending
    · rw [sameData]
      exact (agrees _).mpr inTime
    · rw [sameData]
      exact verified

/-! ## What is accepted but not returned, young or unused -/

/-- What `check_response` accepts was returned by an earlier call, is young enough, and no
earlier call was given it. -/
def ExactAcceptance (platform : Platform Key) (start : UnlockService) (calls : List TimedCall)
    (wait : ℚ≥0) (device : Dict) (given signature : Option Json) : Prop :=
  ReturnsNone (checkResponse platform device given signature
      (elapsed wait (run (perform platform) start calls))).1 ↔
    ∃ nonce, given = some (.str nonce) ∧ ∃ deviceId answers issuing since,
      Drawn platform start calls deviceId answers issuing since ∧
      Returns (issueChallenge answers deviceId issuing).1 nonce ∧
      item device "id" = .ok (.str deviceId) ∧
      InTime start.data
        ((elapsed wait (run (perform platform) start calls)).time - issuing.time) ∧
      (∀ call ∈ calls, call.2.given ≠ some nonce) ∧
      Verifies platform start.data device nonce answers.issuedMs deviceId signature

/-- A service with the sample configuration and a given time to live of its challenges. -/
def storeService (ttl : Json) : UnlockService :=
  sampleService (.loaded sampleFile
    (update defaults (sampleMembers true ++ [(py "challenge_ttl", ttl)])))

def storeDevice : Dict := [(py "id", .str (py "phone")), (py "public_key_pem", .str (py "BEGIN"))]

/-- The challenge is issued, and answered. -/
def answeredCalls (answers : Answers) : List TimedCall := [(0, .issue (py "phone") answers)]

/-- A guess of the nonce comes before the challenge. -/
def guessedCalls : List TimedCall :=
  (0, .check storeDevice (some (.str sampleNonce)) none) :: answeredCalls calmAnswers

/-- Surroundings in which signing raises. -/
def unsignedAnswers : Answers := { calmAnswers with signature := .error .valueError }

/-- The response to a challenge of the sample service. -/
def storeResult (ttl : Json) (calls : List TimedCall) : Except PyExc CheckResult :=
  (checkResponse samplePlatform storeDevice (some (.str sampleNonce)) (some (.str (py "01")))
    (elapsed 0 (run (perform samplePlatform) (storeService ttl) calls))).1

/-- It is accepted. -/
def isAccepted : Except PyExc CheckResult → Bool
  | .ok (.accepted _ _) => true
  | _ => false

theorem returnsNone_of_isAccepted {result : Except PyExc CheckResult}
    (accepted : isAccepted result = true) : ReturnsNone result := by
  unfold isAccepted at accepted
  split at accepted
  next nonce entry => exact ⟨nonce, entry, rfl⟩
  · contradiction

theorem storeResult_isAccepted :
    isAccepted (storeResult (.int 30) (answeredCalls calmAnswers)) = true ∧
      isAccepted (storeResult (.int 30) guessedCalls) = true ∧
      isAccepted (storeResult (.int 30) (answeredCalls unsignedAnswers)) = true ∧
      isAccepted (storeResult (.float .nan) (answeredCalls calmAnswers)) = true := by
  decide +kernel

theorem acceptable_answeredCalls :
    ∃ nonce, some (Json.str sampleNonce) = some (.str nonce) ∧
      Acceptable samplePlatform (storeService (.int 30)) (answeredCalls calmAnswers)
        (elapsed 0 (run (perform samplePlatform) (storeService (.int 30))
          (answeredCalls calmAnswers))).time storeDevice nonce (some (.str (py "01"))) := by
  refine (returnsNone_iff_acceptable samplePlatform (storeService (.int 30)) rfl ?_
    (answeredCalls calmAnswers) (List.nodup_singleton _) 0 storeDevice _ _).mp
    (returnsNone_of_isAccepted storeResult_isAccepted.1)
  decide +kernel

theorem not_inTime_storeService {age : ℚ} : ¬ InTime (storeService (.float .nan)).data age := by
  rintro ⟨ttl, configured, within⟩
  have isNan : item (storeService (.float .nan)).data "challenge_ttl" = .ok (.float .nan) := by
    decide +kernel
  obtain rfl := Except.ok.inj (isNan.symm.trans configured)
  simp [Json.atMost] at within

/-- A nonce that was guessed before it was drawn, one that was never returned because signing
raised, and one whose time to live is no number are accepted. -/
theorem not_exactAcceptance :
    ¬ ExactAcceptance samplePlatform (storeService (.int 30)) guessedCalls 0 storeDevice
        (some (.str sampleNonce)) (some (.str (py "01"))) ∧
      ¬ ExactAcceptance samplePlatform (storeService (.int 30)) (answeredCalls unsignedAnswers) 0
        storeDevice (some (.str sampleNonce)) (some (.str (py "01"))) ∧
      ¬ ExactAcceptance samplePlatform (storeService (.float .nan)) (answeredCalls calmAnswers) 0
        storeDevice (some (.str sampleNonce)) (some (.str (py "01"))) := by
  obtain ⟨-, guessed, unsigned, unordered⟩ := storeResult_isAccepted
  refine ⟨fun exact => ?_, fun exact => ?_, fun exact => ?_⟩
  · obtain ⟨nonce, same, _, _, _, _, _, _, _, _, unused, _⟩ :=
      exact.mp (returnsNone_of_isAccepted guessed)
    cases same
    exact unused _ List.mem_cons_self rfl
  · obtain ⟨nonce, same, deviceId, answers, issuing, since, drawn, returned, _⟩ :=
      exact.mp (returnsNone_of_isAccepted unsigned)
    obtain ⟨_, _, _, _, signed⟩ := returns_iff.mp returned
    obtain ⟨before, wait, isSingle, _⟩ := drawn.split
    rcases List.append_eq_singleton_iff.mp isSingle.symm with ⟨_, isCall⟩ | ⟨_, isNil⟩
    · cases isCall
      exact nomatch signed
    · contradiction
  · obtain ⟨nonce, _, _, _, _, _, _, _, _, young, _⟩ :=
      exact.mp (returnsNone_of_isAccepted unordered)
    exact not_inTime_storeService young

end RemoteUnlock.Listener