import Mathlib.Data.List.Permutation
import RemoteUnlock.Library.Overlap
import RemoteUnlock.Pair.Commands

/-!
# Commands that run at the same time

Nothing keeps a command from loading `config.json` before another one has saved it.  The
file is then what some of the commands would have left in turn, and what the others did is
gone; a device that was revoked can be enabled again.  Where no command saves between
another one's load and save, none is lost (`commands_interleave`).
-/

namespace RemoteUnlock.Pair

open Python Python.Items Common Library

/-! ## Records over time -/

/-- `d.get("enabled", True)` -/
def isEnabled (device : Dict) : Bool :=
  ((lookup (py "enabled") device).getD (.bool true)).truthy

/-- A record is the same apart from being disabled. -/
structure Succeeds (device later : Dict) : Prop where
  fields : ∀ key, key ≠ py "enabled" → key ≠ py "revoked" → lookup key later = lookup key device
  stays : isEnabled device = false → isEnabled later = false

theorem Succeeds.refl (device : Dict) : Succeeds device device := ⟨fun _ _ _ => rfl, id⟩

theorem Succeeds.trans {first second third : Dict} (succeeds : Succeeds first second)
    (again : Succeeds second third) : Succeeds first third where
  fields key notEnabled notRevoked :=
    (again.fields key notEnabled notRevoked).trans (succeeds.fields key notEnabled notRevoked)
  stays disabled := again.stays (succeeds.stays disabled)

theorem isEnabled_disabled (stamp : Text) (device : Dict) :
    isEnabled (disabled stamp device) = false := by
  rw [isEnabled, lookup_enabled_disabled]
  rfl

theorem succeeds_disabled (stamp : Text) (device : Dict) :
    Succeeds device (disabled stamp device) where
  fields key notEnabled notRevoked := by
    rw [disabled, lookup_assign_of_ne notRevoked, lookup_assign_of_ne notEnabled]
  stays _ := isEnabled_disabled stamp device

/-- The records of the first list are still there in the second, in their places. -/
inductive Extends : List Json → List Json → Prop where
  | nil (added : List Json) : Extends [] added
  | same (element : Json) {elements later : List Json} (rest : Extends elements later) :
      Extends (element :: elements) (element :: later)
  | succeeds {device next : Dict} {elements later : List Json} (record : Succeeds device next)
      (rest : Extends elements later) : Extends (.obj device :: elements) (.obj next :: later)

theorem Extends.append (elements added : List Json) : Extends elements (elements ++ added) := by
  induction elements with
  | nil => exact .nil added
  | cons element elements inductionHypothesis => exact .same element inductionHypothesis

theorem Extends.refl (elements : List Json) : Extends elements elements := by
  have whole := Extends.append elements []
  rwa [List.append_nil] at whole

theorem Extends.prepend (earlier : List Json) {elements later : List Json}
    (extended : Extends elements later) : Extends (earlier ++ elements) (earlier ++ later) := by
  induction earlier with
  | nil => exact extended
  | cons element earlier inductionHypothesis => exact .same element inductionHypothesis

theorem Extends.trans {first second third : List Json} (extended : Extends first second)
    (again : Extends second third) : Extends first third := by
  induction extended generalizing third with
  | nil => exact .nil third
  | same element rest inductionHypothesis =>
      cases again with
      | same _ more => exact .same element (inductionHypothesis more)
      | succeeds record more => exact .succeeds record (inductionHypothesis more)
  | succeeds record rest inductionHypothesis =>
      cases again with
      | same _ more => exact .succeeds record (inductionHypothesis more)
      | succeeds next more => exact .succeeds (record.trans next) (inductionHypothesis more)

theorem Extends.of_mem {elements later : List Json} (extended : Extends elements later)
    {device : Dict} (membership : .obj device ∈ elements) :
    ∃ next, .obj next ∈ later ∧ Succeeds device next := by
  induction extended with
  | nil => contradiction
  | same element rest inductionHypothesis =>
      rcases List.mem_cons.mp membership with rfl | inRest
      · exact ⟨device, List.mem_cons_self, .refl device⟩
      · obtain ⟨next, isLater, succeeds⟩ := inductionHypothesis inRest
        exact ⟨next, List.mem_cons_of_mem _ isLater, succeeds⟩
  | @succeeds own next _ _ record rest inductionHypothesis =>
      rcases List.mem_cons.mp membership with same | inRest
      · obtain rfl := Json.obj.inj same
        exact ⟨next, List.mem_cons_self, record⟩
      · obtain ⟨next, isLater, succeeds⟩ := inductionHypothesis inRest
        exact ⟨next, List.mem_cons_of_mem _ isLater, succeeds⟩

/-- No record of the file is dropped and no disabled one enabled. -/
def Kept (before after : Option Bytes) : Prop :=
  ∀ elements, Listed before elements → ∃ later, Listed after later ∧ Extends elements later

instance : IsPreorder (Option Bytes) Kept where
  refl _ elements listed := ⟨elements, listed, .refl elements⟩
  trans _ _ _ kept again elements listed := by
    obtain ⟨middle, isMiddle, extended⟩ := kept elements listed
    obtain ⟨later, isLater, more⟩ := again middle isMiddle
    exact ⟨later, isLater, extended.trans more⟩

variable {Key : Type} {platform : Platform Key}

theorem Changes.extends {command : Command} {elements changed : List Json}
    (changes : Changes platform command elements changed) : Extends elements changed := by
  cases changes with
  | adds => exact .append _ _
  | revokes name stamp _ _ revoked =>
      obtain ⟨earlier, device, later, rfl, rfl, _⟩ := revokeIn_cases revoked
      exact .prepend earlier (.succeeds (succeeds_disabled stamp device) (.refl later))
  | keeps => exact .refl elements

theorem kept_of_update {command : Command} {accesses : Accesses} {file after : Option Bytes}
    (updates : command.update platform accesses file = some after) : Kept file after := by
  intro elements listed
  obtain ⟨changed, isChanged, changes⟩ := update_changes updates listed
  exact ⟨changed, isChanged, changes.extends⟩

/-! ## What a command leaves -/

/-- The device that was added is listed, the one that was revoked is disabled. -/
def Command.Done (command : Command) (file : Option Bytes) : Prop :=
  match command with
  | .addDevice name _ issue => ∃ elements device issued, Listed file elements ∧
      .obj device ∈ elements ∧ lookup (py "id") device = some (.str name) ∧
      issue = .ok issued ∧
      lookup (py "cert_sha256") device = some (.str (ofText issued.certSha256))
  | .revokeDevice name _ => ∃ elements device, Listed file elements ∧
      .obj device ∈ elements ∧ lookup (py "id") device = some (.str name) ∧
      isEnabled device = false
  | .renewServer _ _ _ => True

theorem Command.Done.kept {command : Command} {before after : Option Bytes}
    (isDone : command.Done before) (kept : Kept before after) : command.Done after := by
  cases command with
  | addDevice name phonePubkey issue =>
      obtain ⟨elements, device, issued, listed, membership, named, made, known⟩ := isDone
      obtain ⟨later, isLater, extended⟩ := kept elements listed
      obtain ⟨next, isNext, succeeds⟩ := extended.of_mem membership
      refine ⟨later, next, issued, isLater, isNext, ?_, made, ?_⟩
      · exact (succeeds.fields _ (by decide) (by decide)).trans named
      · exact (succeeds.fields _ (by decide) (by decide)).trans known
  | revokeDevice name stamp =>
      obtain ⟨elements, device, listed, membership, named, off⟩ := isDone
      obtain ⟨later, isLater, extended⟩ := kept elements listed
      obtain ⟨next, isNext, succeeds⟩ := extended.of_mem membership
      refine ⟨later, next, isLater, isNext, ?_, succeeds.stays off⟩
      exact (succeeds.fields _ (by decide) (by decide)).trans named
  | renewServer ip loadKey issueServer => trivial

theorem done_of_update {command : Command} {accesses : Accesses} {file after : Option Bytes}
    (updates : command.update platform accesses file = some after) : command.Done after := by
  rcases listed_of_update updates with ⟨ip, loadKey, issueServer, rfl⟩ | ⟨elements, listed⟩
  · trivial
  · obtain ⟨changed, isChanged, changes⟩ := update_changes updates listed
    cases changes with
    | adds name phonePubkey key issued _ valid absent loaded =>
        exact ⟨_, record platform name key issued, issued, isChanged, by simp, rfl, rfl, rfl⟩
    | revokes name stamp _ _ revoked =>
        obtain ⟨earlier, device, later, rfl, rfl, named, _⟩ := revokeIn_cases revoked
        refine ⟨_, disabled stamp device, isChanged, by simp, ?_, isEnabled_disabled stamp device⟩
        exact ((succeeds_disabled stamp device).fields _ (by decide) (by decide)).trans named
    | keeps => trivial

/-! ## Interleavings -/

/-- The commands as processes, each with what its accesses to the file raise. -/
def updates (platform : Platform Key) (processes : ℕ → Command × Accesses) (process : ℕ)
    (file : Option Bytes) : Option (Option Bytes) :=
  (processes process).1.update platform (processes process).2 file

/-- What commands leave that run one after the other. -/
def inTurn (platform : Platform Key) (processes : ℕ → Command × Accesses) (order : List ℕ)
    (file : Option Bytes) : Option Bytes :=
  order.foldl (fun file process =>
    ((processes process).1.run platform (processes process).2 file).2) file

theorem serial_updates (processes : ℕ → Command × Accesses) (order : List ℕ)
    (file : Option Bytes) :
    Shared.serial (updates platform processes) order file =
      inTurn platform processes order file := by
  unfold Shared.serial inTurn
  congr 1
  funext file process
  exact (Command.run_file _ _ _).symm

/-- What was done stays done where no command loses another one's change. -/
theorem done_step {processes : ℕ → Command × Accesses} (shared : Shared (Option Bytes))
    (access : Access)
    (isDone : ∀ process ∈ shared.written, (processes process).1.Done shared.cell)
    (undisturbed : Shared.Undisturbed shared access) :
    let after := shared.step (updates platform processes) access
    ∀ process ∈ after.written, (processes process).1.Done after.cell := by
  intro after
  have moved : Shared.StepCase _ shared access after :=
    Shared.step_cases (updates platform processes) shared access
  clear_value after
  cases moved with
  | idle => exact isDone
  | read process => exact isDone
  | finish own read holds =>
      obtain rfl := undisturbed read holds
      intro process written
      cases saves : updates platform processes own shared.cell with
      | none =>
          simp only [Shared.finish, saves, Option.isSome_none, Bool.false_eq_true, if_false,
            List.append_nil, Option.getD_none] at written ⊢
          exact isDone process written
      | some value =>
          simp only [Shared.finish, saves, Option.isSome_some, if_true, List.mem_append,
            List.mem_singleton, Option.getD_some] at written ⊢
          rcases written with earlier | rfl
          · exact (isDone process earlier).kept (kept_of_update saves)
          · exact done_of_update saves

/-- For every interleaving the file is what some of the commands that have saved would leave
one after the other, the last one to save among them.  Where every command finds the file
as it has loaded it when it ends, all of them count, in the order of their ends: what was
revoked stays revoked, what was added stays listed, and no record is dropped or enabled
again. -/
theorem commands_interleave (platform : Platform Key) (processes : ℕ → Command × Accesses)
    (file : Option Bytes) (accesses : List Access) :
    let step := Shared.step (updates platform processes)
    let shared := run step (Shared.start file) accesses
    (∃ kept, kept.Sublist shared.written ∧ kept.getLast? = shared.written.getLast? ∧
        inTurn platform processes kept file = shared.cell) ∧
      (Along step Shared.Undisturbed (Shared.start file) accesses →
        shared.cell = inTurn platform processes shared.finished file ∧
        (∀ process ∈ shared.written, (processes process).1.Done shared.cell) ∧
        ∀ first second, accesses = first ++ second →
          Kept (run step (Shared.start file) first).cell shared.cell) := by
  intro step shared
  constructor
  · obtain ⟨kept, sublist, last, leaves⟩ :=
      (Shared.run_layered (updates platform processes) file accesses).cell
    rw [serial_updates] at leaves
    exact ⟨kept, sublist, last, leaves⟩
  · intro undisturbed
    refine ⟨?_, ?_, ?_⟩
    · rw [← serial_updates]
      exact Shared.run_undisturbed undisturbed
    · have isDone : ∀ process ∈ (Shared.start file).written,
          (processes process).1.Done (Shared.start file).cell := by simp [Shared.start]
      exact run_invariant_along done_step isDone undisturbed
    · rintro first second rfl
      have split := (Along.append.mp undisturbed).2
      have keeps : ∀ process cell value, updates platform processes process cell = some value →
          Kept cell value := fun _ _ _ saves => kept_of_update saves
      have kept := Shared.run_keeps keeps split
      rwa [← run_append] at kept

/-! ## A revocation that is undone -/

def samplePlatform : Platform Unit where
  crypto :=
    { loadPem := fun _ => .ok ()
      b64decode := fun _ => .ok []
      loadDer := fun _ => .ok ()
      isP256 := fun _ => true
      encodeDss := fun _ _ => []
      verify := fun _ _ _ => false }
  publicPem _ := []
  ipAddress _ := none
  path := py "config.json"

def sampleFile : Option Bytes :=
  some (encode (savedText (assign (py "devices") (.arr [.obj [(py "id", .str (py "phone")),
      (py "cert_sha256", .str (py "00")), (py "enabled", .bool true)]])
    [(py "target_id", .str (py "laptop")), (py "listener_ip", .str (py "10.0.0.1"))])))

/-- A phone is revoked while the server certificate is renewed. -/
def overlapping : ℕ → Command × Accesses
  | 0 => (.revokeDevice (py "phone") "2024-01-01".toList, .calm)
  | _ => (.renewServer (some (py "10.0.0.2")) none (fun _ _ => none), .calm)

/-- No order of the two commands leaves what their overlapping does: the phone is enabled
again. -/
theorem not_serialisable :
    let shared := run (Shared.step (updates samplePlatform overlapping))
      (Shared.start sampleFile) [.read 1, .read 0, .finish 0, .finish 1]
    shared.finished = [0, 1] ∧ ∀ order, order.Perm shared.finished →
      inTurn samplePlatform overlapping order sampleFile ≠ shared.cell := by
  intro shared
  have finished : shared.finished = [0, 1] := by decide +kernel
  refine ⟨finished, fun order permuted => ?_⟩
  rw [finished] at permuted
  rcases List.perm_pair.mp permuted with rfl | rfl
  · decide +kernel
  · decide +kernel

end RemoteUnlock.Pair
