import RemoteUnlock.Listener.Coherence
import RemoteUnlock.Pair.Commands

/-!
# Revocations and sessions

A session looks its device up once and goes on with the record through two more waits, and
the configuration is reloaded only when a session begins.  A revocation is therefore sure
to be effective only where no session waits with the record, or with a configuration in
which it can still be found, and where the reloads behind the revocation read the file
(`revoked_unauthorised`).
-/

namespace RemoteUnlock.Listener

open Python Python.Items Common Library

/-! ## Revoked devices -/

/-- No enabled record has the name. -/
def RevokedIn (name : PyStr) (data : Dict) : Prop :=
  ∀ device, EnabledIn data device → lookup (py "id") device ≠ some (.str name)

/-- The content can be loaded, and no enabled record in it has the name. -/
def Revoked (name : PyStr) (content : Bytes) : Prop :=
  ∃ data, parseConfig content = .ok data ∧ RevokedIn name data

theorem Revoked.of_parse {name : PyStr} {content : Bytes} (revoked : Revoked name content)
    {data : Dict} (parsed : parseConfig content = .ok data) : RevokedIn name data := by
  obtain ⟨own, isOwn, inOwn⟩ := revoked
  rwa [Except.ok.inj (parsed.symm.trans isOwn)]

def isNamed (name : PyStr) : Json → Bool
  | .obj device => decide (lookup (py "id") device = some (.str name))
  | _ => false

/-- One record at most has the name. -/
def OneRecord (name : PyStr) (content : Bytes) : Prop :=
  ∀ elements, Pair.Listed (some content) elements → (elements.filter (isNamed name)).length ≤ 1

/-- A revocation is what `revoke_device` does to the file. -/
theorem update_of_revokeDevice {name : PyStr} {stamp : Text} {content saved : Bytes}
    (revoked : revokeDevice name stamp content = .ok (some saved)) {Key : Type}
    (platform : Pair.Platform Key) :
    (Pair.Command.revokeDevice name stamp).update platform .calm (some content) =
      some (some saved) := by
  unfold Common.revokeDevice at revoked
  obtain ⟨data, parsed, revoked⟩ := bind_eq_ok.mp revoked
  split at revoked
  next elements isList =>
    obtain ⟨found, searched, revoked⟩ := bind_eq_ok.mp revoked
    obtain ⟨changed, rfl, rfl⟩ := Option.map_eq_some_iff.mp (Except.ok.inj revoked)
    have computed : (Pair.Command.revokeDevice name stamp).compute platform .calm
        (some content) = .ok (assign (py "devices") (.arr changed) data) :=
      Pair.Command.compute_eq_ok.mpr ⟨rfl, data,
        Pair.loadConfig_eq_ok.mpr ⟨rfl, rfl, content, rfl, parsed⟩,
        Pair.revokeDevice_eq_ok.mpr ⟨elements, changed, isList, searched, rfl⟩⟩
    unfold Pair.Command.update
    rw [computed]
    rfl
  · contradiction

/-- A revocation of the only record of a name leaves no enabled one. -/
theorem revoked_of_revokeDevice {name : PyStr} {stamp : Text} {content saved : Bytes}
    (single : OneRecord name content)
    (returns : revokeDevice name stamp content = .ok (some saved)) {Key : Type}
    (platform : Pair.Platform Key) : Revoked name saved := by
  have updates := update_of_revokeDevice returns platform
  rcases Pair.listed_of_update updates with ⟨_, _, _, isRenewal⟩ | ⟨elements, listed⟩
  · contradiction
  · have count := single elements listed
    obtain ⟨changed, ⟨_, data, isSame, parsed, isList⟩, changes⟩ :=
      Pair.update_changes updates listed
    cases isSame
    cases changes with
    | revokes _ _ _ _ searched =>
        obtain ⟨earlier, device, later, rfl, rfl, named, _⟩ := Pair.revokeIn_cases searched
        have own : isNamed name (.obj device) = true := decide_eq_true named
        rw [List.filter_append, List.filter_cons_of_pos own, List.length_append,
          List.length_cons] at count
        have noneEarlier : earlier.filter (isNamed name) = [] :=
          List.length_eq_zero_iff.mp (by omega)
        have noneLater : later.filter (isNamed name) = [] :=
          List.length_eq_zero_iff.mp (by omega)
        rw [List.filter_eq_nil_iff] at noneEarlier noneLater
        refine ⟨data, parsed, fun other enabled isName => ?_⟩
        obtain ⟨on, elements, isElements, membership⟩ := enabled
        obtain rfl := Except.ok.inj (isElements.symm.trans isList.devices)
        have isOther : isNamed name (.obj other) = true := decide_eq_true isName
        rcases List.mem_append.mp membership with inEarlier | inRest
        · exact noneEarlier _ inEarlier isOther
        · rcases List.mem_cons.mp inRest with same | inLater
          · rw [Json.obj.inj same, Pair.lookup_enabled_disabled] at on
            contradiction
          · exact noneLater _ inLater isOther

/-! ## The configuration behind a revocation -/

/-- Every change leaves a content in which the name is revoked. -/
def KeepRevoked (name : PyStr) : ConfigFile → List FileChange → Prop
  | _, [] => True
  | file, change :: changes =>
      Revoked name (file.change change).content ∧ KeepRevoked name (file.change change) changes

theorem KeepRevoked.content {name : PyStr} {file : ConfigFile} {changes : List FileChange}
    (keep : KeepRevoked name file changes) (revoked : Revoked name file.content) :
    Revoked name (changes.foldl ConfigFile.change file).content := by
  induction changes generalizing file with
  | nil => exact revoked
  | cons change changes inductionHypothesis => exact inductionHypothesis keep.2 keep.1

theorem KeepRevoked.append {name : PyStr} {file : ConfigFile} {first second : List FileChange}
    (keep : KeepRevoked name file (first ++ second)) :
    KeepRevoked name file first ∧
      KeepRevoked name (first.foldl ConfigFile.change file) second := by
  induction first generalizing file with
  | nil => exact ⟨trivial, keep⟩
  | cons change first inductionHypothesis =>
      obtain ⟨inFirst, inSecond⟩ := inductionHypothesis keep.2
      exact ⟨⟨keep.1, inFirst⟩, inSecond⟩

/-- The file says that the name is revoked, and the configuration says so too or is behind
the file. -/
structure FileRevoked (name : PyStr) (state : ConfigState) : Prop where
  content : Revoked name state.file.content
  known : Behind state ∨ RevokedIn name state.config.data

/-- A reload that has something to read is not kept from it. -/
def Reloads (access : FileAccess) (state : ConfigState) : Prop :=
  Behind state → access.statRaises = none ∧ access.readRaises = none

theorem FileRevoked.changed {name : PyStr} {state : ConfigState} {change : FileChange}
    (revoked : FileRevoked name state) (fresh : change.mtime ∉ state.file.seen)
    (keeps : Revoked name (state.file.change change).content) :
    FileRevoked name (state.changed [change]) where
  content := keeps
  known := by
    rcases revoked.known with behind | inData
    · have freshChange : FreshChanges state.file [change] := ⟨fresh, trivial⟩
      exact .inl (behind.changed freshChange)
    · exact .inr inData

/-- Behind a reload the configuration says so. -/
theorem FileRevoked.reloaded {name : PyStr} {state : ConfigState} {access : FileAccess}
    (revoked : FileRevoked name state) (reloads : Reloads access state)
    (keep : KeepRevoked name state.file (access.beforeRead ++ access.beforeStat)) :
    Revoked name (reloadIfChanged access state).2.file.content ∧
      RevokedIn name (reloadIfChanged access state).2.config.data := by
  obtain ⟨keepRead, keepStat⟩ := keep.append
  have read := keepRead.content revoked.content
  cases reloadIfChanged_cases access state with
  | kept same reason =>
      rw [same]
      refine ⟨revoked.content, ?_⟩
      rcases revoked.known with behind | inData
      · rcases reason with raises | current
        · simp [(reloads behind).1] at raises
        · exact absurd behind current
      · exact inData
  | failed behind same reason =>
      rcases reason with raises | ⟨exc, fails⟩
      · simp [(reloads behind).2] at raises
      · obtain ⟨data, parsed, _⟩ := read
        exact absurd (parsed.symm.trans fails) (by simp)
  | loaded data behind parsed hasData file mtime =>
      rw [file, hasData]
      exact ⟨keepStat.content read, read.of_parse parsed⟩

/-! ## Sessions behind a revocation -/

/-- A session in this place is not going to be authorised for the device: it has no record
of it, and where it still looks one up there is none. -/
def Spares (name : PyStr) (data : Dict) : Place → Prop
  | .recvHello admission _ =>
      (∀ device, admission.certDevice = some device → lookup (py "id") device ≠ some (.str name)) ∧
        (admission.certDevice.getD [] = [] → RevokedIn name data)
  | .sendChallenge identity _ => identity.deviceId ≠ name
  | .recvResponse identity _ => identity.deviceId ≠ name
  | _ => True

theorem Spares.reloaded {name : PyStr} {data other : Dict} {place : Place}
    (spares : Spares name data place) (revoked : RevokedIn name other) :
    Spares name other place := by
  cases place with
  | recvHello admission deadline => exact ⟨spares.1, fun _ => revoked⟩
  | _ => exact spares

theorem Resting.spares {name : PyStr} {data : Dict} {next : Place} (resting : Resting (.ok next)) :
    Spares name data next := by
  cases next with
  | recvHello => exact resting.elim
  | sendChallenge => exact resting.elim
  | recvResponse => exact resting.elim
  | _ => trivial

variable {Key : Type} {platform : Platform Key}

theorem item_eq_ok {mapping : Dict} {key : String} {value : Json}
    (found : item mapping key = .ok value) : lookup (py key) mapping = some value := by
  unfold item at found
  split at found
  · rwa [← Except.ok.inj found]
  · contradiction

/-- What a session does keeps it spared. -/
theorem SessionEffect.spares {name : PyStr} {session : ℕ} {peer : Peer} {answers : Answers}
    {awaited : Awaited} {before after : UnlockService} {place next : Place}
    (effect : SessionEffect platform session peer answers awaited before place after (.ok next))
    (spares : Spares name before.data place) : Spares name before.data next := by
  cases effect with
  | quiet _ resting => exact resting.spares
  | challenge identity challenge signed admitted identified =>
      subst admitted
      have named := item_eq_ok identified.identifier
      intro same
      rw [same] at named
      rcases identified.source with ⟨isCert, _⟩ | ⟨unnamed, _, found⟩
      · exact spares.1 _ isCert named
      · exact spares.2 unnamed _ (deviceById_spec found).1 named
  | unsent _ _ resting => exact resting.spares
  | await => exact spares
  | grant _ _ _ _ _ _ _ resting => exact resting.spares

/-- A session that begins with a configuration in which the device is revoked is spared. -/
theorem ConnectEffect.spares {name : PyStr} {peer : Peer} {before after : UnlockService}
    {next : Place} (effect : ConnectEffect platform peer before after (.ok next))
    (revoked : RevokedIn name before.data) {data : Dict} (inData : RevokedIn name data) :
    Spares name data next := by
  cases effect with
  | quiet _ resting => exact resting.spares
  | hello admitted =>
      refine ⟨fun device isCert => ?_, fun _ => inData⟩
      obtain ⟨certificate, _, named⟩ := admitted.certificate
      rw [isCert] at named
      unfold certDevice at named
      split at named
      · exact revoked device (deviceByFp_spec named).1
      · simp at named

/-! ## The world behind a revocation -/

/-- All sessions are spared. -/
def World.Spares (name : PyStr) (data : Dict) (world : World platform) : Prop :=
  ∀ session current, world.sessions session = some current →
    Listener.Spares name data current.place

/-- The name is revoked for good. -/
structure Sealed (name : PyStr) (world : World platform) : Prop where
  file : FileRevoked name world.service.config
  spared : world.Spares name world.service.data

/-- The changes of the file in a step. -/
def Label.changes : Label → List FileChange
  | .change made => [made]
  | .connect _ _ access _ => access.beforeRead ++ access.beforeStat
  | _ => []

/-- If the step begins a session, its reload reads a file that the configuration is behind. -/
def World.Reloads (world : World platform) : Label → Prop
  | .connect _ _ access _ => Listener.Reloads access world.service.config
  | _ => True

/-- The step leaves a revoked name revoked. -/
structure Leaves (name : PyStr) (world : World platform) (label : Label) : Prop where
  fresh : world.FreshTimes label
  reloads : world.Reloads label
  keep : KeepRevoked name world.service.config.file label.changes

/-- The sessions stay spared where the configuration stays as it is or knows of the
revocation, and a session that begins has it reloaded. -/
theorem StepCase.spared {name : PyStr} {before after : World platform} {label : Label}
    (moved : StepCase before label after) (spared : before.Spares name before.service.data)
    (known : after.service.data = before.service.data ∨ RevokedIn name after.service.data)
    (reloaded : ∀ session peer access answers, label = .connect session peer access answers →
      after.service.config = (reloadIfChanged access before.service.config).2 →
        RevokedIn name after.service.data) :
    after.Spares name after.service.data := by
  have others : ∀ session current, before.sessions session = some current →
      Listener.Spares name after.service.data current.place := by
    intro session current found
    rcases known with same | revoked
    · rw [same]
      exact spared session current found
    · exact (spared session current found).reloaded revoked
  cases moved with
  | connect acting peer access answers service next isKnown account fresh ran =>
      intro session current found
      rw [World.sessions_setSession] at found
      split at found
      · obtain rfl := Option.some.inj found
        rcases connect_effect ran with ⟨_, resting⟩ | effect
        · exact resting.spares
        · have config : service.config = (reloadIfChanged access before.service.config).2 := by
            cases effect with
            | quiet calm => exact calm.config
            | hello => rfl
          have revoked := reloaded acting peer access answers rfl config
          refine effect.spares ?_ revoked
          have same : (begun access before.service).data = service.data :=
            congrArg (fun state => state.config.data) config.symm
          rw [same]
          exact revoked
      · exact others session current found
  | resume acting awaited answers previous service next isKnown account isSession allowed ran =>
      intro session current found
      rw [World.sessions_setSession] at found
      split at found
      · obtain rfl := Option.some.inj found
        have effect := resume_effect ran
        have same : service.data = before.service.data :=
          congrArg (fun state => state.config.data) effect.config
        rw [show ((before.reach service).setSession _ _).service.data = before.service.data
          from same]
        exact effect.spares (spared acting previous isSession)
      · exact others session current found
  | _ => exact others

theorem Sealed.step {name : PyStr} {world : World platform} {label : Label}
    (isSealed : Sealed name world) (leaves : Leaves name world label) :
    Sealed name (step world label) := by
  have moved := step_cases world label
  generalize Listener.step world label = after at moved
  have file : FileRevoked name after.service.config ∧
      (after.service.data = world.service.data ∨ RevokedIn name after.service.data) := by
    cases moved.config with
    | same equal =>
        rw [UnlockService.data, equal]
        exact ⟨isSealed.file, .inl rfl⟩
    | change change isChange changed =>
        subst isChange
        rw [UnlockService.data, changed]
        exact ⟨isSealed.file.changed leaves.fresh leaves.keep.1, .inl rfl⟩
    | reload session peer access answers connects reloaded =>
        subst connects
        obtain ⟨content, inData⟩ := isSealed.file.reloaded leaves.reloads leaves.keep
        rw [UnlockService.data, reloaded]
        exact ⟨⟨content, .inr inData⟩, .inr inData⟩
  refine ⟨file.1, moved.spared isSealed.spared file.2 ?_⟩
  rintro session peer access answers rfl reloaded
  rw [UnlockService.data, reloaded]
  exact (isSealed.file.reloaded leaves.reloads leaves.keep).2

/-- No session is authorised for the device in this step. -/
def Unauthorised (name : PyStr) (world : World platform) (label : Label) : Prop :=
  ∀ session grant, Granting world label session grant → grant.identity.deviceId ≠ name

theorem Sealed.unauthorised {name : PyStr} {world : World platform} (isSealed : Sealed name world)
    (label : Label) : Unauthorised name world label := by
  intro session grant granting
  obtain ⟨current, identity, deadline, _, _, _, _, _, _, found, isPlace, _, rfl⟩ :=
    granting.resumes
  have spares := isSealed.spared session current found
  rw [isPlace] at spares
  exact spares

theorem Sealed.along {name : PyStr} {world : World platform} (isSealed : Sealed name world)
    {labels : List Label} (leaves : Along Listener.step (Leaves name) world labels) :
    Along Listener.step (Unauthorised name) world labels :=
  Along.of_invariant (fun _ _ isSealed leaves => isSealed.step leaves)
    (fun _ label isSealed _ => isSealed.unauthorised label) isSealed leaves

/-! ## A revocation -/

theorem length_seen_changes (changes : List FileChange) (file : ConfigFile) :
    file.seen.length ≤ (changes.foldl ConfigFile.change file).seen.length := by
  induction changes generalizing file with
  | nil => exact le_refl _
  | cons change changes inductionHypothesis =>
      refine le_trans ?_ (inductionHypothesis _)
      rcases file.change_cases change with same | ⟨content, replaced⟩
      · rw [same]
      · rw [replaced]
        exact Nat.le_succ _

/-- In this step `revoke_device` returns: the changes of the step are made, and among them
is the one it saves. -/
structure Revokes (name : PyStr) (world : World platform) (label : Label)
    (earlier later : List FileChange) : Prop where
  made : (step world label).service.config.file =
    label.changes.foldl ConfigFile.change world.service.config.file
  returns : ∃ stamp mtime saved, label.changes = earlier ++ .revoke name stamp mtime :: later ∧
    revokeDevice name stamp (earlier.foldl ConfigFile.change world.service.config.file).content =
      .ok (some saved)

/-- The file is not changed between the two accesses of the reload of this step. -/
def Label.Undivided : Label → Prop
  | .connect _ _ access _ => access.beforeStat = []
  | _ => True

/-- The revocation meets no session that could still be authorised for the device, the only
record of which it disables, and it does not fall between the two accesses of a reload. -/
structure Timely (name : PyStr) (world : World platform) (label : Label)
    (earlier later : List FileChange) : Prop where
  spared : world.Spares name world.service.data
  single : OneRecord name (earlier.foldl ConfigFile.change world.service.config.file).content
  fresh : world.FreshTimes label
  reloads : world.Reloads label
  undivided : label.Undivided
  keep : ∀ made, label.changes = earlier ++ made :: later → KeepRevoked name
    ((earlier.foldl ConfigFile.change world.service.config.file).change made) later

/-- The file behind the revocation. -/
theorem Revokes.revoked {name : PyStr} {world : World platform} {label : Label}
    {earlier later : List FileChange} (revokes : Revokes name world label earlier later)
    (timely : Timely name world label earlier later) :
    Revoked name (step world label).service.config.file.content ∧
      (step world label).service.config.file ≠ world.service.config.file := by
  obtain ⟨stamp, mtime, saved, split, saves⟩ := revokes.returns
  have keep := timely.keep _ split
  have replaced : (earlier.foldl ConfigFile.change world.service.config.file).change
      (.revoke name stamp mtime) =
        (earlier.foldl ConfigFile.change world.service.config.file).replace saved mtime := by
    simp only [ConfigFile.change, saves]
  rw [replaced] at keep
  have file := revokes.made
  rw [split, List.foldl_append, List.foldl_cons, replaced] at file
  rw [file]
  constructor
  · exact keep.content (revoked_of_revokeDevice timely.single saves
      ⟨platform.crypto, fun _ => [], fun _ => none, []⟩)
  · intro same
    have longer := length_seen_changes later
      ((earlier.foldl ConfigFile.change world.service.config.file).replace saved mtime)
    have long := length_seen_changes earlier world.service.config.file
    rw [same, ConfigFile.replace, List.length_cons] at longer
    omega

/-- Behind a timely revocation the name is revoked for good. -/
theorem Revokes.sealed {name : PyStr} {world : World platform} {label : Label}
    {earlier later : List FileChange} (revokes : Revokes name world label earlier later)
    (timely : Timely name world label earlier later) : Sealed name (step world label) := by
  have moved := step_cases world label
  obtain ⟨content, changed⟩ := revokes.revoked timely
  have made := revokes.made
  generalize Listener.step world label = after at moved content changed made
  have known : (∃ made, label = .change made ∧ Behind after.service.config ∧
      after.service.data = world.service.data) ∨ RevokedIn name after.service.data := by
    cases moved.config with
    | same equal => exact absurd (congrArg ConfigState.file equal) changed
    | change change isChange isChanged =>
        subst isChange
        left
        rw [UnlockService.data, isChanged]
        refine ⟨change, rfl, ?_, rfl⟩
        rcases changed_cases timely.fresh with same | behind
        · rw [isChanged, same] at changed
          contradiction
        · exact behind
    | reload session peer access answers connects reloaded =>
        subst connects
        right
        rw [UnlockService.data, reloaded]
        rw [reloaded] at changed content made
        have undivided : access.beforeStat = [] := timely.undivided
        cases reloadIfChanged_cases access world.service.config with
        | kept same reason => exact absurd (congrArg ConfigState.file same) changed
        | failed behind same reason =>
            rw [same] at content
            rcases reason with raises | ⟨exc, fails⟩
            · simp [(timely.reloads behind).2] at raises
            · obtain ⟨data, parsed, _⟩ := content
              exact absurd (parsed.symm.trans fails) (by simp)
        | loaded data behind parsed hasData file mtime =>
            rw [hasData]
            rw [undivided, ConfigState.changed_nil] at file
            rw [file] at content
            exact content.of_parse parsed
  refine ⟨⟨content, ?_⟩, moved.spared timely.spared ?_ ?_⟩
  · exact known.imp_left fun ⟨_, _, behind, _⟩ => behind
  · exact known.imp_left fun ⟨_, _, _, same⟩ => same
  · rintro session peer access answers rfl _
    rcases known with ⟨_, isChange, _⟩ | revoked
    · contradiction
    · exact revoked

/-- Once a timely revocation has returned, no session is authorised for the device in any
later step that leaves it revoked. -/
theorem revoked_unauthorised (platform : Platform Key) (setup : Setup) (name : PyStr)
    (first : List Label) (label : Label) (later : List Label)
    (before behind : List FileChange)
    (revokes : Revokes name (World.after platform setup first) label before behind)
    (timely : Timely name (World.after platform setup first) label before behind)
    (leaves : Along step (Leaves name) (World.after platform setup (first ++ [label])) later) :
    Along step (Unauthorised name) (World.after platform setup (first ++ [label])) later := by
  have isSealed := revokes.sealed timely
  rw [World.after, run_append] at leaves ⊢
  exact isSealed.along leaves

/-! ## A phone that is revoked -/

def revokePhone : Label := .change (.revoke (py "phone") "2026-01-01".toList 2)

theorem changed_file (world : World platform) (made : FileChange) :
    (step world (.change made)).service.config.file =
      (Label.change made).changes.foldl ConfigFile.change world.service.config.file := rfl

/-- What the revocation saves. -/
def revokedContent : Bytes :=
  encode (savedText (assign (py "devices")
    (.arr [.obj (Pair.disabled "2026-01-01".toList [(py "id", .str (py "phone")),
      (py "public_key_pem", .str (py "BEGIN")), (py "cert_sha256", .str []),
      (py "enabled", .bool true)])]) (update defaults (sampleMembers true))))

theorem revokeDevice_sampleFile :
    revokeDevice (py "phone") "2026-01-01".toList sampleFile.content =
      .ok (some revokedContent) := by
  rw [revokeDevice, parseConfig_sampleFile]
  rfl

/-- A phone that connects behind its revocation is not authorised. -/
theorem revoked_unauthorised_openSession :
    Along step (Unauthorised (py "phone"))
      (World.after samplePlatform sampleSetup ([] ++ [revokePhone])) (openSession 0) := by
  apply revoked_unauthorised samplePlatform sampleSetup (py "phone") [] revokePhone
    (openSession 0) [] []
  · exact ⟨changed_file _ _, "2026-01-01".toList, 2, revokedContent, rfl,
      revokeDevice_sampleFile⟩
  · refine ⟨fun session current found => ?_, fun elements listed => ?_, ?_, trivial, trivial,
      fun _ _ => trivial⟩
    · contradiction
    · obtain ⟨_, data, isSame, parsed, isList⟩ := listed
      cases isSame
      obtain rfl := Except.ok.inj (parsed.symm.trans parseConfig_sampleFile)
      obtain rfl := Json.arr.inj (Option.some.inj isList)
      decide
    · change 2 ∉ sampleFile.seen
      decide
  · exact ⟨⟨trivial, fun _ => ⟨rfl, rfl⟩, trivial⟩, ⟨trivial, trivial, trivial⟩,
      ⟨trivial, trivial, trivial⟩, trivial⟩

/-- The session and the device of a grant. -/
def grantOf : Event → Option (ℕ × PyStr)
  | .grant session grant => some (session, grant.identity.deviceId)
  | _ => none

/-- A phone that is revoked while it waits for the challenge to be answered is authorised. -/
theorem not_revoked_unauthorised :
    Revokes (py "phone") (World.after samplePlatform sampleSetup (openSession 0)) revokePhone
        [] [] ∧
      ¬ Along step (Unauthorised (py "phone"))
        (World.after samplePlatform sampleSetup (openSession 0 ++ [revokePhone]))
        [.resume 0 (.text sampleResponse) calmAnswers] := by
  constructor
  · refine ⟨changed_file _ _, "2026-01-01".toList, 2, revokedContent, rfl, ?_⟩
    have content : (World.after samplePlatform sampleSetup
        (openSession 0)).service.config.file.content = sampleFile.content := by
      decide +kernel
    rw [List.foldl_nil, content]
    exact revokeDevice_sampleFile
  · rintro ⟨unauthorised, _⟩
    generalize isWorld : World.after samplePlatform sampleSetup (openSession 0 ++ [revokePhone]) =
      world at unauthorised
    have before : world.service.history.filterMap grantOf = [] := by
      subst isWorld
      decide +kernel
    have after : (step world (.resume 0 (.text sampleResponse)
        calmAnswers)).service.history.filterMap grantOf = [(0, py "phone")] := by
      subst isWorld
      decide +kernel
    have isGranted : (0, py "phone") ∈ (step world (.resume 0 (.text sampleResponse)
        calmAnswers)).service.history.filterMap grantOf := by
      rw [after]
      exact List.mem_singleton_self _
    obtain ⟨event, membership, isGrant⟩ := List.mem_filterMap.mp isGranted
    cases event with
    | grant session grant =>
        obtain ⟨rfl, named⟩ := Prod.mk.inj (Option.some.inj isGrant)
        rcases (step_cases world _).grant_mem membership with old | granting
        · have listed := List.mem_filterMap.mpr ⟨_, old, isGrant⟩
          rw [before] at listed
          contradiction
        · exact unauthorised _ grant granting named
    | _ => contradiction

end RemoteUnlock.Listener
