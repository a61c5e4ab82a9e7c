import RemoteUnlock.Python.Limits
import RemoteUnlock.Listener.ChallengeStore
import RemoteUnlock.Listener.Charges

/-!
# What a session raises

Up to where a hello identifies a device, the code of a session raises nothing but what its
surroundings raise and what `except Exception` catches.  From there on it raises nothing if
the challenge can be made, the response can be read and judged, and nothing but a closed
connection keeps a message from being sent (`sessionBody_raises`).
-/

namespace RemoteUnlock.Common

open Python Python.Items

/-! ## The configuration -/

theorem updatePair_isException {pair : Json} {exc : PyExc}
    (failed : updatePair pair = .error exc) : exc.isException = true := by
  unfold updatePair at failed
  split at failed <;> cases failed <;> rfl

theorem mapM_updatePair_isException {pairs : List Json} {exc : PyExc}
    (failed : pairs.mapM updatePair = .error exc) : exc.isException = true := by
  induction pairs with
  | nil => exact nomatch failed
  | cons pair pairs inductionHypothesis =>
      rw [List.mapM_cons] at failed
      cases first : updatePair pair with
      | error other =>
          rw [first] at failed
          cases failed
          exact updatePair_isException first
      | ok fields =>
          rw [first] at failed
          cases rest : pairs.mapM updatePair with
          | error other =>
              rw [rest] at failed inductionHypothesis
              cases failed
              exact inductionHypothesis rfl
          | ok others =>
              rw [rest] at failed
              exact nomatch failed

theorem parseConfig_isException {content : Bytes} {exc : PyExc}
    (failed : parseConfig content = .error exc) : exc.isException = true := by
  unfold parseConfig at failed
  split at failed
  · split at failed
    · cases failed
      rfl
    next raw _ =>
      unfold updateFrom at failed
      split at failed
      · contradiction
      · split at failed
        · cases failed
          rfl
        next elements _ =>
          cases pairs : elements.mapM updatePair with
          | error other =>
              rw [pairs] at failed
              cases failed
              exact mapM_updatePair_isException pairs
          | ok others =>
              rw [pairs] at failed
              exact nomatch failed
  · cases failed
    rfl

/-- What the accesses to a file raise is caught by `except Exception`. -/
def FileAccess.Caught (access : FileAccess) : Prop :=
  ∀ raises ∈ [access.statRaises, access.readRaises, access.statAgainRaises], ∀ exc ∈ raises,
    exc.isException = true

instance (access : FileAccess) : Decidable access.Caught := inferInstanceAs
  (Decidable (∀ raises ∈ [access.statRaises, access.readRaises, access.statAgainRaises],
    ∀ exc ∈ raises, exc.isException = true))

theorem reloadIfChanged_throws {access : FileAccess} (caught : access.Caught) :
    Py.Throws (·.isException = true) (reloadIfChanged access) := by
  unfold reloadIfChanged
  refine Py.Throws.tryExcept ?_ fun exc isException => ?_
  · refine Py.Throws.bind (Py.Throws.raiseIf (caught _ (by simp))) fun _ => ?_
    refine Py.Throws.bind (Py.Throws.read _) fun changed => ?_
    split
    · unfold elapse reload
      refine Py.Throws.bind (Py.Throws.modify _) fun _ => ?_
      refine Py.Throws.bind (Py.Throws.raiseIf (caught _ (by simp))) fun _ => ?_
      refine Py.Throws.bind (Py.Throws.read _) fun content => ?_
      refine Py.Throws.bind (Py.Throws.ofExcept fun _ => parseConfig_isException) fun data => ?_
      refine Py.Throws.bind (Py.Throws.modify _) fun _ => ?_
      refine Py.Throws.bind (Py.Throws.modify _) fun _ => ?_
      refine Py.Throws.bind (Py.Throws.raiseIf (caught _ (by simp))) fun _ => ?_
      exact Py.Throws.modify _
    · exact Py.Throws.pure _
  · split
    · exact Py.Throws.pure _
    · intro _ raised _ ran
      cases ran
      exact isException

theorem deviceBy_isException {key : String} {wanted : PyStr} {elements : List Json} {exc : PyExc}
    (failed : deviceBy key wanted elements = .error exc) : exc.isException = true := by
  induction elements with
  | nil => contradiction
  | cons element rest inductionHypothesis =>
      unfold deviceBy at failed
      split at failed
      · contradiction
      next same =>
        cases same
        split at failed
        · split at failed
          · cases failed
            rfl
          · split at failed
            · contradiction
            · exact inductionHypothesis failed
        · exact inductionHypothesis failed
      · cases failed
        rfl

theorem devices_isException {data : Dict} {exc : PyExc} (failed : devices data = .error exc) :
    exc.isException = true := by
  unfold devices at failed
  split at failed
  · cases failed
    rfl
  · split at failed
    · cases failed
      rfl
    · contradiction

theorem deviceById_isException {data : Dict} {deviceId : PyStr} {exc : PyExc}
    (failed : deviceById data deviceId = .error exc) : exc.isException = true := by
  unfold deviceById at failed
  cases listed : devices data with
  | error other =>
      rw [listed] at failed
      cases failed
      exact devices_isException listed
  | ok elements =>
      rw [listed] at failed
      exact deviceBy_isException failed

theorem deviceByFp_isException {data : Dict} {fingerprint : PyStr} {exc : PyExc}
    (failed : deviceByFp data fingerprint = .error exc) : exc.isException = true := by
  unfold deviceByFp at failed
  cases listed : devices data with
  | error other =>
      rw [listed] at failed
      cases failed
      exact devices_isException listed
  | ok elements =>
      rw [listed] at failed
      exact deviceBy_isException failed

end RemoteUnlock.Common

namespace RemoteUnlock.Listener

open Python Python.Items Common Audit

variable {Key : Type} {platform : Platform Key}

theorem item_isException {mapping : Dict} {key : String} {exc : PyExc}
    (failed : item mapping key = .error exc) : exc.isException = true := by
  unfold item at failed
  split at failed
  · contradiction
  · cases failed
    rfl

theorem configItem_throws (key : String) :
    Py.Throws (·.isException = true) (configItem key) :=
  fun _ _ _ ran => item_isException (configItem_eq_iff.mp ran).1

theorem certDevice_isException {data : Dict} {certificate : Option Bytes} {exc : PyExc}
    (failed : certDevice platform data certificate = .error exc) : exc.isException = true := by
  unfold certDevice at failed
  split at failed
  · exact deviceByFp_isException failed
  · contradiction

/-! ## Up to the hello -/

section Messages

variable {answers : Answers} {peer : Peer} {session : ℕ}

theorem auditAppend_throws (event : String) (data : Dict) :
    Py.Throws (fun _ => answers.Faulty) (auditAppend platform answers event data) := by
  intro before exc after ran
  by_contra calm
  have returns : (answers.disk before.audit.log.seq).1.raises = false := by
    by_contra raises
    exact calm ⟨_, Bool.eq_true_of_not_eq_false raises⟩
  obtain ⟨entry, log, appended⟩ := append_returns platform.sha returns
    (answers.disk before.audit.log.seq).2 (py event) data before.audit
  unfold auditAppend at ran
  simp only [Py.bind_apply, Py.read_apply, Py.zoom_apply, appended] at ran
  cases ran

theorem locked_throws (key : PyStr) (kind : LockKind) :
    Py.Throws (fun _ => answers.Faulty) (locked platform answers key kind) := by
  unfold locked
  refine Py.Throws.bind (Py.Throws.read _) fun left => ?_
  split
  · refine Py.Throws.bind (Py.Throws.read _) fun now => ?_
    refine Py.Throws.bind (Py.Throws.read _) fun last => ?_
    split
    · refine Py.Throws.bind (Py.Throws.modify _) fun _ => ?_
      exact Py.Throws.bind (auditAppend_throws _ _) fun _ => Py.Throws.pure _
    · exact Py.Throws.pure _
  · exact Py.Throws.pure _

theorem fail_throws (deviceId : Option PyStr) (reason : Text) (handling : Bool) :
    Py.Throws (fun _ => answers.Faulty) (fail platform answers peer deviceId reason handling) := by
  intro before exc after ran
  rcases fail_cases ran with ⟨_, _, hits, returned⟩ | ⟨faulty, _⟩
  · contradiction
  · exact faulty

theorem record_throws (event : String) (title : Option String) (priority : String)
    (tags : List String) (data : Dict) :
    Py.Throws (fun _ => answers.Faulty)
      (record platform answers event title priority tags data) :=
  fun _ _ _ ran => record_faulty ran

theorem failRest_throws (hits : List (LockKind × PyStr)) :
    Py.Throws (fun _ => answers.Faulty) (failRest platform answers hits) := by
  induction hits with
  | nil => exact Py.Throws.pure _
  | cons hit hits inductionHypothesis =>
      unfold failRest
      refine Py.Throws.bind (Py.Throws.read _) fun left => ?_
      exact Py.Throws.bind (record_throws _ _ _ _ _) fun _ => inductionHypothesis

/-- What asking for the certificate of a peer raises is caught by `except Exception`. -/
def Peer.Caught (peer : Peer) : Prop :=
  ∀ exc, peer.certificate = .error exc → exc.isException = true

instance (peer : Peer) : Decidable peer.Caught :=
  match asked : peer.certificate with
  | .ok _ => isTrue fun _ failed => nomatch asked.symm.trans failed
  | .error exc => decidable_of_iff (exc.isException = true)
      ⟨fun caught _ failed => Except.error.inj (asked.symm.trans failed) ▸ caught,
        fun caught => caught exc asked⟩

theorem sessionStart_throws (calm : ¬ answers.Faulty) (caught : peer.Caught) :
    Py.Throws (·.isException = true) (sessionStart platform answers peer) := by
  unfold sessionStart
  refine Py.Throws.bind ((locked_throws _ _).imp fun _ faulty => (calm faulty).elim)
    fun isLocked => ?_
  split
  · exact Py.Throws.pure _
  · refine Py.Throws.bind (Py.Throws.ofExcept caught) fun certificate => ?_
    refine Py.Throws.bind (Py.Throws.read _) fun data => ?_
    refine Py.Throws.bind (Py.Throws.ofExcept fun _ => certDevice_isException) fun device => ?_
    refine Py.Throws.bind (configItem_throws _) fun required => ?_
    split
    · exact (fail_throws _ _ _).imp fun _ faulty => (calm faulty).elim
    · exact Py.Throws.bind (Py.Throws.read _) fun now => Py.Throws.pure _

/-- The code of a session in front of its first await. -/
theorem connectBody_throws {access : FileAccess} (calm : ¬ answers.Faulty)
    (reads : access.Caught) (caught : peer.Caught) :
    Py.Throws (·.isException = true) (do
      reloadConfig access
      sessionStart platform answers peer) :=
  Py.Throws.bind (Py.Throws.zoom (reloadIfChanged_throws reads))
    fun _ => sessionStart_throws calm caught

/-! ## From the hello to the challenge -/

/-- There is room for a challenge of the device, and it can be made and signed. -/
def Challengeable (answers : Answers) (service : UnlockService) (deviceId : PyStr) : Prop :=
  (∃ ttl, item service.data "challenge_ttl" = .ok ttl ∧
    ∃ kept, prunePending service.time ttl service.pending = .ok kept ∧
      kept.items.length < maxPending) ∧
  (∃ target, item service.data "target_id" = .ok target ∧
    ∃ message, signedMessageFor (py "challenge") answers.nonce answers.issuedMs deviceId target =
      .ok message) ∧
  ∃ signature, answers.signature = .ok signature

instance (service : UnlockService) (deviceId : PyStr) :
    Decidable (Challengeable answers service deviceId) := by
  unfold Challengeable
  infer_instance

theorem challengeDevice_returns {identity : Identity} {before after : UnlockService} {exc : PyExc}
    (calm : ¬ answers.Faulty) (ready : Challengeable answers before identity.deviceId)
    (ran : challengeDevice platform answers identity before = (.error exc, after)) : False := by
  unfold challengeDevice at ran
  rcases Py.of_bind ran with ⟨raised, ended, _⟩ | ⟨isLocked, middle, tested, rest⟩
  · exact calm (locked_throws _ _ _ _ _ ended)
  cases isLocked with
  | true => cases rest
  | false =>
      obtain ⟨rfl, _⟩ := locked_false platform answers tested
      obtain ⟨⟨ttl, configured, kept, pruned, fits⟩, ⟨target, isTarget, message, built⟩,
        signs⟩ := ready
      obtain ⟨challenge, returned, _⟩ := returns_iff.mpr
        ⟨rfl, ⟨kept, ttl, configured, pruned, fits⟩, ⟨target, message, isTarget, built⟩, signs⟩
      rcases Py.of_bind rest with ⟨raised, ended, _⟩ | ⟨_, _, _, finish⟩
      · rw [ended] at returned
        contradiction
      · cases finish

/-- A hello that identifies a device is answered if the challenge can be made. -/
theorem afterHello_raises {admission : Admission} {hello : Dict} {before after : UnlockService}
    {exc : PyExc} (calm : ¬ answers.Faulty)
    (ready : ∀ deviceId ∈ helloDevice admission before.data hello,
      Challengeable answers before deviceId)
    (ran : afterHello platform answers peer admission hello before = (.error exc, after)) :
    exc.isException = true ∧ helloDevice admission before.data hello = none := by
  have unfailing : ∀ {reason : Text} {middle : UnlockService},
      fail platform answers peer none reason false middle ≠ (.error exc, after) :=
    fun failed => calm (fail_throws _ _ _ _ _ _ failed)
  unfold afterHello at ran
  unfold helloDevice at ready ⊢
  cases field : lookup (py "device_id") hello with
  | none =>
      rw [field] at ran
      exact (unfailing ran).elim
  | some value =>
      rw [field] at ran ready
      cases value with
      | str deviceId =>
          simp only at ran ready ⊢
          split at ran
          · exact (unfailing ran).elim
          next isHello =>
            rw [if_neg isHello] at ready ⊢
            rcases Py.of_bind ran with
              ⟨raised, ended, same⟩ | ⟨⟨found, lookupData⟩, middle, looked, rest⟩
            · cases same
              obtain ⟨rfl, source⟩ := lookupDevice_eq_iff.mp ended
              split at source
              · contradiction
              next unnamed =>
                rw [if_neg unnamed]
                cases searched : deviceById after.data deviceId with
                | error other =>
                    rw [searched] at source
                    cases source
                    exact ⟨deviceById_isException searched, rfl⟩
                | ok other =>
                    rw [searched] at source
                    contradiction
            obtain ⟨rfl, source⟩ := lookupDevice_eq_iff.mp looked
            have search : (if admission.certDevice.getD [] ≠ [] then .ok admission.certDevice
                else deviceById middle.data deviceId) = .ok found := looked_eq source
            rw [search] at ready ⊢
            cases found with
            | none => exact (unfailing rest).elim
            | some device =>
                simp only at ready ⊢
                rcases Py.of_bind rest with ⟨raised, ended, same⟩ | ⟨identifier, final, has, finish⟩
                · cases same
                  obtain ⟨noId, rfl⟩ := Py.ofExcept_eq_iff.mp ended
                  rw [noId]
                  exact ⟨item_isException noId, if_neg (by simp)⟩
                · obtain ⟨hasId, rfl⟩ := Py.ofExcept_eq_iff.mp has
                  split at finish
                  · exact (unfailing finish).elim
                  next same =>
                    rw [hasId, not_not.mp same, if_pos rfl] at ready
                    exact (challengeDevice_returns calm (ready _ rfl) finish).elim
      | _ => exact (unfailing ran).elim

/-! ## Behind the challenge -/

/-- A message is sent, or its peer has closed the connection. -/
def Sends (raises : Option PyExc) : Prop := ∀ exc ∈ raises, exc.kind = .connectionClosed

instance (raises : Option PyExc) : Decidable (Sends raises) :=
  inferInstanceAs (Decidable (∀ exc ∈ raises, exc.kind = .connectionClosed))

theorem sent_returns {raises : Option PyExc} (sends : Sends raises) :
    Py.Throws (fun _ => False) (sent raises) := by
  refine Py.Throws.raiseIf fun exc isRaised => ?_
  obtain ⟨raised, notClosed⟩ := Option.mem_filter_iff.mp isRaised
  simp [sends exc raised] at notClosed

/-- The wait for a response has a deadline. -/
def Timed (service : UnlockService) : Prop :=
  ∃ ttl, item service.data "challenge_ttl" = .ok ttl ∧
    ∃ deadline, deadlineAfter service.time 2 ttl = .ok deadline

instance (service : UnlockService) : Decidable (Timed service) := by
  unfold Timed
  infer_instance

theorem afterChallenge_returns {identity : Identity} {before after : UnlockService} {exc : PyExc}
    (timed : Timed before) (ran : afterChallenge identity before = (.error exc, after)) :
    False := by
  obtain ⟨ttl, configured, deadline, ends⟩ := timed
  rw [afterChallenge, Py.bind_of_ok (configItem_eq_iff.mpr ⟨configured, rfl⟩),
    Py.bind_of_ok (Py.read_apply _ _), ends, Py.bind_of_ok (Py.ofExcept_apply _ _)] at ran
  cases ran

/-- The nonce a response names. -/
def givenNonce (response : Dict) : Option PyStr :=
  match lookup (py "nonce") response with
  | some (.str nonce) => some nonce
  | _ => none

/-- The response to a challenge can be judged: its age compares with `challenge_ttl`, and if
it is young enough, the message can be built and the key of the device loads. -/
def Judicable (platform : Platform Key) (service : UnlockService) (device : Dict)
    (nonce : PyStr) (entry : Pending) : Prop :=
  ∃ ttl, item service.data "challenge_ttl" = .ok ttl ∧
    ∃ expired, compared (Json.exceeds (service.time - entry.issued) ttl) = .ok expired ∧
      (expired = false →
        (∃ target, item service.data "target_id" = .ok target ∧
          ∃ message, signedMessageFor (py "response") nonce entry.issuedMs entry.deviceId target =
            .ok message) ∧
        ∃ pem, item device "public_key_pem" = .ok pem ∧ ∃ key, loadKey platform pem = .ok key)

/-- A response is to no challenge of the device, or to one that can be judged. -/
def Checkable (platform : Platform Key) (service : UnlockService) (device response : Dict) :
    Prop :=
  ∀ nonce ∈ givenNonce response, nonceMatches nonce = true →
    ∀ entry ∈ service.pending.get nonce, item device "id" = .ok (.str entry.deviceId) →
      Judicable platform service device nonce entry

instance (service : UnlockService) (device : Dict) (nonce : PyStr) (entry : Pending) :
    Decidable (Judicable platform service device nonce entry) := by
  unfold Judicable
  infer_instance

instance (service : UnlockService) (device response : Dict) :
    Decidable (Checkable platform service device response) := by
  unfold Checkable
  infer_instance

theorem checkEntry_returns {device : Dict} {deviceId nonce : PyStr} {signature : Option Json}
    {entry : Pending} {before after : UnlockService} {exc : PyExc}
    (identifier : item device "id" = .ok (.str deviceId))
    (ready : deviceId = entry.deviceId → Judicable platform before device nonce entry)
    (ran : checkEntry platform device nonce signature entry before = (.error exc, after)) :
    False := by
  unfold checkEntry at ran
  rw [identifier, Py.bind_of_ok (Py.ofExcept_apply _ _)] at ran
  split at ran
  · cases ran
  next same =>
    have own : deviceId = entry.deviceId := Json.str.inj (not_not.mp same)
    obtain ⟨ttl, configured, expired, compares, judged⟩ := ready own
    rw [Py.bind_of_ok (Py.read_apply _ _),
      Py.bind_of_ok (configItem_eq_iff.mpr ⟨configured, rfl⟩), compares,
      Py.bind_of_ok (Py.ofExcept_apply _ _)] at ran
    cases expired with
    | true => cases ran
    | false =>
        obtain ⟨⟨target, isTarget, message, built⟩, pem, hasPem, key, loaded⟩ := judged rfl
        rw [if_neg Bool.false_ne_true, Py.bind_of_ok (configItem_eq_iff.mpr ⟨isTarget, rfl⟩),
          built, Py.bind_of_ok (Py.ofExcept_apply _ _), hasPem,
          Py.bind_of_ok (Py.ofExcept_apply _ _), loaded,
          Py.bind_of_ok (Py.ofExcept_apply _ _)] at ran
        split at ran <;> cases ran

theorem checkResponse_returns {device response : Dict} {deviceId : PyStr}
    {before after : UnlockService} {exc : PyExc}
    (identifier : item device "id" = .ok (.str deviceId))
    (ready : Checkable platform before device response)
    (ran : checkResponse platform device (lookup (py "nonce") response)
      (lookup (py "signature") response) before = (.error exc, after)) : False := by
  unfold checkResponse at ran
  cases named : lookup (py "nonce") response with
  | none =>
      rw [named] at ran
      cases ran
  | some value =>
      rw [named] at ran
      cases value with
      | str nonce =>
          simp only at ran
          split at ran
          · cases ran
          next matched =>
            rw [Py.bind_of_ok (Py.read_apply _ _), Py.bind_of_ok (Py.modify_apply _ _)] at ran
            cases found : before.pending.get nonce with
            | none =>
                rw [found] at ran
                cases ran
            | some entry =>
                rw [found] at ran
                refine checkEntry_returns identifier (fun own => ?_) ran
                have given : nonce ∈ givenNonce response := by
                  rw [givenNonce, named]
                  exact rfl
                exact ready nonce given (Bool.eq_true_of_not_eq_false matched) entry found
                  (own ▸ identifier)
      | _ => cases ran

/-- A success raises only where an append does. -/
theorem succeed_faulty {identity : Identity} {nonce : PyStr} {signature : Option Json}
    {entry : Pending} {before after : UnlockService} {exc : PyExc}
    (configured : ∃ target, item before.data "target_id" = .ok target)
    (ran : succeed platform answers session peer identity nonce signature entry before =
      (.error exc, after)) : answers.Faulty := by
  obtain ⟨target, hasTarget⟩ := configured
  unfold succeed at ran
  rw [Py.bind_of_ok (Py.read_apply _ _), clearFailures, Py.bind_of_ok (Py.modify_apply _ _),
    issueGrant, Py.bind_of_ok (Py.modify_apply _ _)] at ran
  rcases Py.of_bind ran with ⟨raised, ended, _⟩ | ⟨_, cleared, _, rest⟩
  · have wrong := hasTarget.symm.trans (configItem_eq_iff.mp ended).1
    contradiction
  rcases Py.of_bind rest with ⟨raised, failed, _⟩ | ⟨_, _, _, finish⟩
  · exact record_faulty failed
  · cases finish

/-- A response that can be judged is answered. -/
theorem afterResponse_returns {identity : Identity} {response : Dict}
    {before after : UnlockService} {exc : PyExc} (calm : ¬ answers.Faulty)
    (identifier : item identity.device "id" = .ok (.str identity.deviceId))
    (ready : lookup (py "type") response = some (.str (py "response")) →
      Checkable platform before identity.device response)
    (ran : afterResponse platform answers session peer identity response before =
      (.error exc, after)) : False := by
  unfold afterResponse at ran
  split at ran
  · exact calm (fail_throws _ _ _ _ _ _ ran)
  next isResponse =>
    rcases Py.of_bind ran with ⟨raised, ended, _⟩ | ⟨verdict, middle, judged, rest⟩
    · exact checkResponse_returns identifier (ready (not_not.mp isResponse)) ended
    cases verdict with
    | refused reason => exact calm (fail_throws _ _ _ _ _ _ rest)
    | accepted nonce entry =>
        obtain ⟨_, rfl, checked⟩ := checkResponse_accepted judged
        obtain ⟨target, _, _, _, hasTarget, _⟩ := checked.verified
        refine calm (succeed_faulty ?_ rest)
        exact ⟨target, hasTarget⟩

/-! ## Between two awaits -/

/-- What a wait raises is caught by `except Exception`. -/
def Awaited.Caught : Awaited → Prop
  | .raised exc => exc.isException = true
  | _ => True

instance : (awaited : Awaited) → Decidable awaited.Caught
  | .raised exc => inferInstanceAs (Decidable (exc.isException = true))
  | .finished _ | .text _ | .binary | .timedOut => isTrue trivial

theorem received_isException {awaited : Awaited} {exc : PyExc} (caught : awaited.Caught)
    (arrived : received awaited = some (.error exc)) : exc.isException = true := by
  cases awaited with
  | finished => contradiction
  | text raw =>
      rw [received, Option.some.injEq] at arrived
      split at arrived <;> cases arrived <;> rfl
  | raised other =>
      cases arrived
      exact caught
  | _ =>
      cases arrived
      rfl

/-- The object `_recv_json` reads, within the limits of the interpreter. -/
def readObject (limits : Limits) (raw : Text) : Except PyExc Dict :=
  match Json.loadsWithin limits raw with
  | .ok (.obj members) => .ok members
  | .ok _ => .error .valueError
  | .error exc => .error exc

theorem received_of_readObject {limits : Limits} {raw : Text} {message : Dict}
    (read : readObject limits raw = .ok message) :
    received (.text raw) = some (.ok message) := by
  unfold readObject at read
  split at read
  next members loaded =>
    cases read
    simp only [received, Json.loads_of_loadsWithin loaded]
  · contradiction
  · contradiction

/-- What a session waits for comes so that nothing is raised once its hello has identified a
device, and nothing before that but an `Exception`: the hello of a device can be answered, a
response comes in time as an object that can be judged, and what is to be sent is sent. -/
def Place.Unspoiled (limits : Limits) (platform : Platform Key) (answers : Answers)
    (service : UnlockService) : Place → Awaited → Prop
  | .recvHello admission deadline, awaited =>
      awaited.Caught ∧
        ∀ deviceId ∈ (Place.recvHello admission deadline).device service.data awaited,
          Challengeable answers service deviceId
  | .sendChallenge _ _, .finished raises => Sends raises ∧ Timed service
  | .recvResponse identity _, .text raw =>
      ∃ response, readObject limits raw = .ok response ∧
        (lookup (py "type") response = some (.str (py "response")) →
          Checkable platform service identity.device response)
  | .recvResponse _ _, .binary => False
  | .recvResponse _ _, .raised exc => exc.kind = .connectionClosed
  | .recvResponse _ deadline, .timedOut => past service.time deadline = false
  | .sendRejection _ false, .finished raises => Sends raises
  | .sendResult, .finished raises => Sends raises
  | _, _ => True

instance (limits : Limits) (service : UnlockService) (place : Place) (awaited : Awaited) :
    Decidable (place.Unspoiled limits platform answers service awaited) := by
  unfold Place.Unspoiled
  split <;> infer_instance

/-- Then the code between two awaits raises nothing but a closed connection and, in front of
the hello, an `Exception`. -/
theorem sessionBody_raises {limits : Limits} {place : Place} {awaited : Awaited}
    {body : Py UnlockService Place} {before after : UnlockService} {exc : PyExc}
    (calm : ¬ answers.Faulty) (known : Known platform peer place)
    (unclosed : ∀ admitted, place ≠ .closing admitted)
    (isPossible : possible before.time place awaited = true)
    (unspoiled : place.Unspoiled limits platform answers before awaited)
    (runs : sessionBody platform answers session peer place awaited = some body)
    (ran : body before = (.error exc, after)) (opened : exc.kind ≠ .connectionClosed) :
    exc.isException = true ∧ place.device before.data awaited = none ∧
      ∃ admission deadline, place = .recvHello admission deadline := by
  unfold sessionBody at runs
  split at runs
  next raises => exact (unclosed true rfl).elim
  next admission deadline =>
    obtain ⟨mild, ready⟩ := unspoiled
    obtain ⟨message, arrived, rfl⟩ := Option.map_eq_some_iff.mp runs
    suffices caught : exc.isException = true ∧
        (Place.recvHello admission deadline).device before.data awaited = none from
      ⟨caught.1, caught.2, admission, deadline, rfl⟩
    cases message with
    | error raised =>
        cases ran
        refine ⟨?_, by simp only [Place.device, arrived]⟩
        exact received_isException mild arrived
    | ok hello =>
        simp only [Place.device, arrived] at ready ⊢
        exact afterHello_raises calm ready ran
  next identity challenge raises =>
    cases runs
    obtain ⟨sends, timed⟩ := unspoiled
    rcases Py.of_bind ran with ⟨raised, ended, _⟩ | ⟨_, middle, ended, rest⟩
    · exact (sent_returns sends _ _ _ ended).elim
    · have same : before = middle := (Py.Keeps.raiseIf _).after ended
      subst same
      exact (afterChallenge_returns timed rest).elim
  next identity deadline =>
    obtain ⟨message, arrived, rfl⟩ := Option.map_eq_some_iff.mp runs
    exfalso
    cases awaited with
    | finished => contradiction
    | text raw =>
        obtain ⟨response, read, ready⟩ := unspoiled
        rw [received_of_readObject read] at arrived
        cases arrived
        exact afterResponse_returns calm known.identifier ready ran
    | binary => exact unspoiled
    | raised other =>
        cases arrived
        cases ran
        exact opened unspoiled
    | timedOut =>
        have early : past before.time deadline = false := unspoiled
        rw [possible, early] at isPossible
        contradiction
  next hits raises =>
    cases runs
    have sends : Sends raises := unspoiled
    rcases Py.of_bind ran with ⟨raised, ended, _⟩ | ⟨_, middle, _, rest⟩
    · exact (sent_returns sends _ _ _ ended).elim
    rcases Py.of_bind rest with ⟨raised, ended, _⟩ | ⟨_, _, _, finish⟩
    · exact (calm (failRest_throws hits _ _ _ ended)).elim
    · cases finish
  next raises =>
    cases runs
    have sends : Sends raises := unspoiled
    rcases Py.of_bind ran with ⟨raised, ended, _⟩ | ⟨_, _, _, finish⟩
    · exact (sent_returns sends _ _ _ ended).elim
    · cases finish
  · contradiction

end Messages

/-- The appends of a step succeed. -/
def Label.Recorded : Label → Prop
  | .connect _ _ _ answers => ¬ answers.Faulty
  | .resume _ _ answers => ¬ answers.Faulty
  | _ => True

end RemoteUnlock.Listener
