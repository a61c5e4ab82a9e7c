import Mathlib.Data.Finset.Card
import RemoteUnlock.Library.Matching
import RemoteUnlock.Listener.Charges

/-!
# Resource caps

The number of connections is the number of sessions that are in the `try` of `handle`, since
a session is counted before it and is no longer counted once its `finally` clause has run,
however the code in between ends.  The table of pending challenges is bounded, and the latest
event about each nonce in it is its insertion.
-/

namespace RemoteUnlock.Listener

open Python Python.Items Common Audit Library

variable {Key : Type} {platform : Platform Key}

/-! ## Sessions that count -/

/-- The session is behind the increment of `active` and not yet behind its decrement. -/
def Place.Admitted : Place → Prop
  | .closing false => False
  | .done => False
  | _ => True

/-- The number of connections is as before. -/
def SameActive (before after : UnlockService) : Prop := after.active = before.active

instance : IsPreorder UnlockService SameActive where
  refl _ := rfl
  trans _ _ _ start rest := Eq.trans rest start

theorem active_operations (platform : Platform Key) : Operations platform SameActive where
  auditAppend _ _ _ _ := rfl
  record answers event title priority tags data := by
    unfold record
    refine Py.Keeps.bind (fun _ => rfl) fun entry => ?_
    cases title with
    | none => exact Py.Keeps.bind (Py.Keeps.pure ()) fun _ => Py.Keeps.pure _
    | some title => exact Py.Keeps.bind (Py.Keeps.modify fun _ => rfl) fun _ => Py.Keeps.pure _
  lockAudit _ _ := rfl
  countFailure kind _ _ := by
    cases kind <;> rfl
  clearFailures _ _ _ := rfl
  issueChallenge := issueChallenge_keeps (fun _ _ => rfl) (fun _ _ _ => rfl) fun _ _ => rfl
  checkResponse := checkResponse_keeps fun _ _ => rfl
  broker _ _ _ := rfl
  config _ _ := rfl

theorem Charged.ne_refused {peer : Peer} {session : ℕ} {device : Option PyStr}
    {named faulty : Prop}
    {before after : UnlockService} {place : Place}
    (charged : Charged peer session device named faulty before after (.ok place)) :
    place ≠ .closing false := by
  rintro rfl
  cases charged

/-- Code behind which no session waits in front of its increment. -/
def Enters (body : Py UnlockService Place) : Prop :=
  ∀ before place after, body before = (.ok place, after) → place ≠ .closing false

theorem handled_enters {answers : Answers} {peer : Peer} {body : Py UnlockService Place}
    (enters : Enters body) : Enters (handled platform answers peer body) := by
  intro before place after ran
  rcases Py.of_tryExcept ran with ⟨other, ended, same⟩ | ⟨exc, middle, raised, handles⟩
  · cases same
    exact enters _ _ _ ended
  · rcases recover_charged handles with ⟨_, _, same⟩ | ⟨_, _, same⟩ | ⟨_, _, _, _, hits, same⟩ |
      ⟨_, exc, same⟩
    all_goals cases same
    · simp
    · simp

/-- A session that ends is no longer counted. -/
theorem finished_active {body : Py UnlockService Place} (keeps : Py.Keeps SameActive body)
    (enters : Enters body) {before after : UnlockService} {place : Place}
    (ran : finished body before = (after, place)) :
    place.Admitted ∧ after.active = before.active ∨
      ¬ place.Admitted ∧ after.active = before.active - 1 := by
  unfold finished at ran
  rcases ended : body before with ⟨outcome, middle⟩
  have same : middle.active = before.active := keeps.after ended
  rw [ended] at ran
  cases outcome with
  | error exc =>
      cases ran
      exact .inr ⟨fun admitted => admitted, by rw [← same]⟩
  | ok next =>
      have entered := enters _ _ _ ended
      cases next with
      | done =>
          cases ran
          exact .inr ⟨fun admitted => admitted, by rw [← same]⟩
      | closing admitted =>
          cases ran
          cases admitted with
          | true => exact .inl ⟨trivial, same⟩
          | false => exact (entered rfl).elim
      | _ =>
          cases ran
          exact .inl ⟨trivial, same⟩

/-- The connection is refused, or below the cap it is counted until its session ends. -/
theorem connect_active {answers : Answers} {peer : Peer} {access : FileAccess} {place : Place}
    {before after : UnlockService}
    (ran : connect platform answers peer access before = (after, place)) :
    ¬ place.Admitted ∧ after.active = before.active ∨
      place.Admitted ∧ after.active = before.active + 1 ∧
        (item before.data "max_connections").map (Json.atLeast before.active) =
          .ok (some false) := by
  unfold connect at ran
  split at ran
  · cases ran
    exact .inl ⟨fun admitted => admitted, rfl⟩
  next below =>
    have enters : Enters (do
        reloadConfig access
        sessionStart platform answers peer) := by
      intro start place final ended
      exact (connectBody_charged 0 ended).ne_refused
    rcases finished_active ((active_operations platform).connectBody answers peer access)
      (handled_enters enters) ran with ⟨admitted, same⟩ | ⟨ended, same⟩
    · exact .inr ⟨admitted, same, below⟩
    · refine .inl ⟨ended, ?_⟩
      rw [same]
      exact add_sub_cancel_right _ _
  · cases ran
    exact .inl ⟨fun admitted => admitted, rfl⟩

theorem resume_active {answers : Answers} {session : ℕ} {peer : Peer} {place next : Place}
    {awaited : Awaited} {before after : UnlockService}
    (ran : resume platform answers session peer place awaited before = some (after, next)) :
    ¬ place.Admitted ∧ ¬ next.Admitted ∧ after.active = before.active ∨
      place.Admitted ∧ (next.Admitted ∧ after.active = before.active ∨
        ¬ next.Admitted ∧ after.active = before.active - 1) := by
  unfold resume at ran
  split at ran
  · cases ran
    exact .inl ⟨fun admitted => admitted, fun admitted => admitted, rfl⟩
  next hits raises =>
    right
    refine ⟨trivial, ?_⟩
    rw [Option.some.injEq] at ran
    apply finished_active _ _ ran
    · refine Py.Keeps.bind (sent_keeps _) fun _ => ?_
      exact Py.Keeps.bind ((active_operations platform).failRest _ _) fun _ => Py.Keeps.pure _
    · intro start place final ended
      rcases Py.of_bind ended with ⟨exc, _, failed⟩ | ⟨_, _, _, rest⟩
      · contradiction
      rcases Py.of_bind rest with ⟨exc, _, failed⟩ | ⟨_, _, _, finish⟩
      · contradiction
      cases finish
      simp
  next unrefused unhandled =>
    obtain ⟨body, runs, ended⟩ := Option.map_eq_some_iff.mp ran
    right
    have admitted : place.Admitted := by
      cases place with
      | done => simp [sessionBody] at runs
      | closing isAdmitted =>
          cases isAdmitted with
          | true => trivial
          | false => cases awaited <;> simp [sessionBody] at runs
      | _ => trivial
    refine ⟨admitted, ?_⟩
    apply finished_active _ _ ended
    · exact (active_operations platform).handled answers peer
        ((active_operations platform).sessionBody runs)
    · apply handled_enters
      intro start next final ran
      rcases sessionBody_charged runs ran with ⟨_, _, same | ⟨exc, same⟩⟩ | ⟨_, charged⟩
      · cases same
        simp
      · cases same
      · exact charged.ne_refused

/-- The sessions that count. -/
def World.Admits (world : World platform) (session : ℕ) : Prop :=
  ∃ current, world.sessions session = some current ∧ current.place.Admitted

/-- The service counts these sessions. -/
def World.Counts (world : World platform) (admitted : Finset ℕ) : Prop :=
  (∀ session, session ∈ admitted ↔ world.Admits session) ∧
    world.service.active = admitted.card

theorem World.admits_setSession (world : World platform) (session : ℕ)
    (current : Session platform) (other : ℕ) :
    (world.setSession session current).Admits other ↔
      if other = session then current.place.Admitted else world.Admits other := by
  unfold World.Admits
  rw [World.sessions_setSession]
  split
  · simp
  · rfl

theorem StepCase.counts {before after : World platform} {label : Label}
    (moved : StepCase before label after) {admitted : Finset ℕ} (counts : before.Counts admitted) :
    ∃ admitted, after.Counts admitted := by
  obtain ⟨members, counted⟩ := counts
  cases moved with
  | idle => exact ⟨admitted, members, counted⟩
  | tick => exact ⟨admitted, members, counted⟩
  | change => exact ⟨admitted, members, counted⟩
  | hangUp => exact ⟨admitted, members, counted⟩
  | connect session peer access answers service next known account fresh ran =>
      have absent : session ∉ admitted := by
        rw [members]
        rintro ⟨current, found, _⟩
        rw [fresh] at found
        contradiction
      rcases connect_active ran with ⟨refused, same⟩ | ⟨enters, more, _⟩
      · refine ⟨admitted, fun other => ?_, same.trans counted⟩
        rw [World.admits_setSession]
        split
        next isSession =>
          subst isSession
          exact iff_of_false absent refused
        · exact members other
      · refine ⟨insert session admitted, fun other => ?_, ?_⟩
        · rw [World.admits_setSession, Finset.mem_insert]
          split
          next isSession => exact iff_of_true (.inl isSession) enters
          next another => exact (or_iff_right another).trans (members other)
        · rw [Finset.card_insert_of_notMem absent, Nat.cast_add_one, ← counted]
          exact more
  | resume session awaited answers current service next known account found allowed ran =>
      have isMember : session ∈ admitted ↔ current.place.Admitted := by
        rw [members]
        constructor
        · rintro ⟨other, there, enters⟩
          rw [found, Option.some.injEq] at there
          exact there ▸ enters
        · exact fun enters => ⟨current, found, enters⟩
      rcases resume_active ran with ⟨out, still, same⟩ | ⟨inside, ⟨stays, same⟩ | ⟨leaves, fewer⟩⟩
      · refine ⟨admitted, fun other => ?_, same.trans counted⟩
        rw [World.admits_setSession]
        split
        next isSession =>
          subst isSession
          exact iff_of_false (fun member => out (isMember.mp member)) still
        · exact members other
      · refine ⟨admitted, fun other => ?_, same.trans counted⟩
        rw [World.admits_setSession]
        split
        next isSession =>
          subst isSession
          exact iff_of_true (isMember.mpr inside) stays
        · exact members other
      · refine ⟨admitted.erase session, fun other => ?_, ?_⟩
        · rw [World.admits_setSession, Finset.mem_erase]
          split
          next isSession => exact iff_of_false (fun both => both.1 isSession) leaves
          next another => exact (and_iff_right another).trans (members other)
        · have one := Finset.card_erase_add_one (isMember.mpr inside)
          change service.active = _
          rw [fewer, counted]
          omega
  | pamConnect request credentials answers service next passed fresh ran =>
      have same := (active_operations platform).requests.pamConnect answers request credentials
        before.service
      rw [ran] at same
      exact ⟨admitted, members, same.trans counted⟩
  | pamResume request awaited answers current service next passed found allowed ran =>
      exact ⟨admitted, members, ((active_operations platform).requests.pamResume ran).trans counted⟩

theorem Setup.active_eq_zero (setup : Setup) : setup.service.active = 0 := by
  obtain ⟨threshold, base, maximum, ttl, _, same⟩ := setup.service_eq
  rw [same]

theorem counts_after (platform : Platform Key) (setup : Setup) (labels : List Label) :
    ∃ admitted, (World.after platform setup labels).Counts admitted := by
  refine @run_invariant _ _ step (fun world => ∃ admitted, world.Counts admitted) ?_ _ ?_ labels
  · rintro world label ⟨admitted, counts⟩
    exact (step_cases world label).counts counts
  · refine ⟨∅, fun session => ?_, setup.active_eq_zero⟩
    simp [World.Admits, World.start]

/-! ## The cap -/

/-- A step that adds a connection finds fewer of them than the cap. -/
theorem StepCase.active_le {before after : World platform} {label : Label}
    (moved : StepCase before label after) {limit : ℤ}
    (configured : UnlockService.number before.service.data "max_connections" = some (limit : ℚ)) :
    after.service.active ≤ max before.service.active limit := by
  have same : ∀ {service : UnlockService}, service.active = before.service.active →
      service.active ≤ max before.service.active limit :=
    fun equal => le_max_of_le_left equal.le
  cases moved with
  | idle => exact same rfl
  | tick => exact same rfl
  | change => exact same rfl
  | hangUp => exact same rfl
  | connect session peer access answers service next known account fresh ran =>
      rcases connect_active ran with ⟨_, equal⟩ | ⟨_, more, below⟩
      · exact same equal
      · change service.active ≤ _
        obtain ⟨value, found, isLimit⟩ := Option.bind_eq_some_iff.mp configured
        rw [item, found] at below
        simp only [Except.map, Json.atLeast_of_number isLimit, Except.ok.injEq, Option.some.injEq,
          decide_eq_false_iff_not, not_le, Int.cast_lt] at below
        omega
  | resume session awaited answers current service next known account found allowed ran =>
      rcases resume_active ran with ⟨_, _, equal⟩ | ⟨_, ⟨_, equal⟩ | ⟨_, fewer⟩⟩
      · exact same equal
      · exact same equal
      · change service.active ≤ _
        omega
  | pamConnect request credentials answers service next passed fresh ran =>
      have equal := (active_operations platform).requests.pamConnect answers request credentials
        before.service
      rw [ran] at equal
      exact same equal
  | pamResume request awaited answers current service next passed found allowed ran =>
      exact same ((active_operations platform).requests.pamResume ran)

/-- All configurations have this cap. -/
def FixedCap (loaded : List Dict) (limit : ℤ) : Prop :=
  ∀ data ∈ loaded, UnlockService.number data "max_connections" = some (limit : ℚ)

theorem active_le_cap (platform : Platform Key) (setup : Setup) (labels : List Label) {limit : ℤ}
    (fixed : FixedCap (World.after platform setup labels).loaded limit) :
    (World.after platform setup labels).service.active ≤ max 0 limit := by
  have bounded : ∀ (labels : List Label) (world : World platform),
      world.service.data ∈ world.loaded → world.service.active ≤ max 0 limit →
      FixedCap (run step world labels).loaded limit →
      (run step world labels).service.active ≤ max 0 limit := by
    intro labels
    induction labels with
    | nil => exact fun _ _ bound _ => bound
    | cons label labels inductionHypothesis =>
        intro world current bound fixed
        have moved := step_cases world label
        apply inductionHypothesis _ (moved.current current) _ fixed
        have here : FixedCap world.loaded limit := fun data isLoaded =>
          fixed data (run_loaded _ labels (moved.loaded isLoaded))
        refine (moved.active_le (here _ current)).trans ?_
        exact max_le bound (le_max_right _ _)
  apply bounded labels _ (List.mem_singleton_self _) _ fixed
  rw [World.start, setup.active_eq_zero]
  exact le_max_left _ _

/-! ## Pending challenges -/

def storeOpens : StoreEvent → Option PyStr
  | .opened nonce _ => some nonce
  | .presented _ => none

def storeCloses : StoreEvent → Option PyStr
  | .opened _ _ => none
  | .presented nonce => some nonce

/-- The table is bounded, and the latest event about each of its nonces is its insertion. -/
structure Kept (service : UnlockService) : Prop where
  bound : service.pending.items.length ≤ maxPending
  latest : ∀ nonce entry, service.pending.get nonce = some entry →
    LatestOpen storeOpens storeCloses nonce (.opened nonce entry) service.store

def KeepsPending (before after : UnlockService) : Prop := Kept before → Kept after

instance : IsPreorder UnlockService KeepsPending where
  refl _ kept := kept
  trans _ _ _ start rest kept := rest (start kept)

theorem KeepsPending.of_same {before after : UnlockService}
    (pending : after.pending = before.pending) (store : after.store = before.store) :
    KeepsPending before after :=
  fun kept => ⟨pending ▸ kept.bound, pending ▸ store ▸ kept.latest⟩

theorem prune_length {now : ℚ} {ttl : Json} {pending kept : PyDict PyStr Pending}
    (pruned : prunePending now ttl pending = .ok kept) :
    kept.items.length ≤ pending.items.length := by
  unfold prunePending at pruned
  split at pruned
  · cases pruned
    exact List.length_filter_le _ _
  · contradiction

theorem Kept.prune {service : UnlockService} (kept : Kept service) {now : ℚ} {ttl : Json}
    {pending : PyDict PyStr Pending}
    (pruned : prunePending now ttl service.pending = .ok pending) :
    Kept { service with pending := pending } :=
  ⟨(prune_length pruned).trans kept.bound,
    fun nonce entry found => kept.latest nonce entry (prunePending_sound pruned found)⟩

theorem Kept.insert {service : UnlockService} (kept : Kept service)
    (room : service.pending.items.length < maxPending) (nonce : PyStr) (entry : Pending) :
    Kept (insertPending nonce entry service).2 where
  bound := (length_assign_le nonce entry service.pending.items).trans room
  latest other found there := by
    change (service.pending.set nonce entry).get other = some found at there
    change LatestOpen storeOpens storeCloses other (.opened other found)
      (service.store ++ [.opened nonce entry])
    rw [PyDict.get_set] at there
    split at there
    next same =>
      cases there
      subst same
      have opens : storeOpens (.opened other entry) = some other := rfl
      exact LatestOpen.of_opens opens _
    next another =>
      apply (kept.latest other found there).append
      intro event isNew
      rw [List.mem_singleton.mp isNew]
      exact ⟨fun same => another (Option.some.inj same).symm, by simp [storeCloses]⟩

theorem Kept.pop {service : UnlockService} (kept : Kept service) (nonce : PyStr) :
    Kept (popped nonce service) where
  bound := (List.length_filter_le _ _).trans kept.bound
  latest other entry there := by
    change (service.pending.pop nonce).get other = some entry at there
    change LatestOpen storeOpens storeCloses other (.opened other entry)
      (service.store ++ [.presented nonce])
    rw [PyDict.get_pop] at there
    split at there
    · contradiction
    next another =>
      apply (kept.latest other entry there).append
      intro event isNew
      rw [List.mem_singleton.mp isNew]
      exact ⟨by simp [storeOpens], fun same => another (Option.some.inj same).symm⟩

theorem issueChallenge_pending (answers : Answers) (deviceId : PyStr) :
    Py.Keeps KeepsPending (issueChallenge answers deviceId) := by
  intro before kept
  unfold issueChallenge
  rw [Py.bind_of_ok (Py.read_apply _ _)]
  cases configured : item before.data "challenge_ttl" with
  | error exc =>
      rw [Py.bind_of_error (configItem_eq_iff.mpr ⟨configured, rfl⟩)]
      exact kept
  | ok ttl =>
      rw [Py.bind_of_ok (configItem_eq_iff.mpr ⟨configured, rfl⟩),
        Py.bind_of_ok (Py.read_apply _ _)]
      cases pruned : prunePending before.time ttl before.pending with
      | error exc =>
          rw [Py.bind_of_error (Py.ofExcept_apply _ _)]
          exact kept
      | ok pending =>
          have fewer := kept.prune pruned
          rw [Py.bind_of_ok (Py.ofExcept_apply _ _), Py.bind_of_ok (Py.modify_apply _ _)]
          split
          · exact fewer
          next room =>
            have inserted := fewer.insert (not_le.mp room) answers.nonce
              ⟨deviceId, before.time, answers.issuedMs⟩
            have rest : Py.Keeps KeepsPending (do
                let target ← configItem "target_id"
                let message ← Py.ofExcept (signedMessageFor (py "challenge") answers.nonce
                  answers.issuedMs deviceId target)
                let signature ← sign answers message
                pure (Json.obj [(py "type", .str (py "challenge")),
                  (py "nonce", .str answers.nonce),
                  (py "issued_ms", .int answers.issuedMs), (py "target_id", target),
                  (py "server_sig", .str (ofText signature))])) := by
              refine Py.Keeps.bind (configItem_keeps _) fun target => ?_
              refine Py.Keeps.bind (Py.Keeps.ofExcept _) fun message => ?_
              refine Py.Keeps.bind ?_ fun signature => Py.Keeps.pure _
              refine Py.Keeps.bind (Py.Keeps.ofExcept _) fun signature => ?_
              exact Py.Keeps.bind (Py.Keeps.modify fun _ => .of_same rfl rfl)
                fun _ => Py.Keeps.pure _
            exact rest _ inserted

theorem pending_operations (platform : Platform Key) : Operations platform KeepsPending where
  auditAppend _ _ _ _ := .of_same rfl rfl
  record answers event title priority tags data := by
    unfold record
    refine Py.Keeps.bind (fun _ => .of_same rfl rfl) fun entry => ?_
    cases title with
    | none => exact Py.Keeps.bind (Py.Keeps.pure ()) fun _ => Py.Keeps.pure _
    | some title =>
        exact Py.Keeps.bind (Py.Keeps.modify fun _ => .of_same rfl rfl) fun _ => Py.Keeps.pure _
  lockAudit _ _ := .of_same rfl rfl
  countFailure kind _ _ := by
    cases kind <;> exact .of_same rfl rfl
  clearFailures _ _ _ := .of_same rfl rfl
  issueChallenge := issueChallenge_pending
  checkResponse := checkResponse_keeps fun nonce _ kept => kept.pop nonce
  broker _ _ _ := .of_same rfl rfl
  config _ _ := .of_same rfl rfl

theorem kept_after (platform : Platform Key) (setup : Setup) (labels : List Label) :
    Kept (World.after platform setup labels).service := by
  refine @run_invariant _ _ step (fun world => Kept world.service) ?_ _ ?_ labels
  · intro world label kept
    exact (pending_operations platform).step (fun _ _ => .of_same rfl rfl)
      (fun _ _ => .of_same rfl rfl) (step_cases world label) kept
  · obtain ⟨threshold, base, maximum, ttl, _, same⟩ := setup.service_eq
    rw [World.start, same]
    refine ⟨Nat.zero_le _, ?_⟩
    intro nonce entry found
    simp [PyDict.get_empty] at found

end RemoteUnlock.Listener
