import RemoteUnlock.Library.Runs
import RemoteUnlock.Windows.Pipe

/-!
# The tile of the credential provider

LogonUI selects the tile and asks it for credentials as often as it likes, and the wait
thread ends in between.  The tile keeps its approval when it has given away the password,
so that the next answer is one with an empty password (`sound_run_iff`).
-/

namespace RemoteUnlock.Windows

open Library

/-- The fields of `CRemoteUnlockCredential` that these callbacks use. -/
structure Tile where
  waiting : Bool
  phoneApproved : Bool
  phoneFailed : Bool
  relayedPassword : WideStr
  statusText : String

/-- What `GetSerialization` answers. -/
inductive Response where
  /-- `CPGSR_NO_CREDENTIAL_NOT_FINISHED` -/
  | noCredentialNotFinished
  /-- `CPGSR_RETURN_CREDENTIAL_FINISHED`, with the password that is packed. -/
  | returnCredentialFinished (password : WideStr)
  deriving DecidableEq

namespace Tile

/-- The tile behind `Initialize`. -/
def initial : Tile := ⟨false, false, false, [], "Click to wait for phone unlock"⟩

/-- `SetSelected`, which starts a wait unless there is one. -/
def setSelected (tile : Tile) : Tile :=
  if tile.waiting then tile
  else
    { tile with
      waiting := true
      phoneApproved := false
      phoneFailed := false
      statusText := "Waiting for phone confirmation\u2026" }

/-- `SetDeselected` -/
def setDeselected (tile : Tile) : Tile := tile

/-- The end of `WaitForPhoneOnBackgroundThread`. -/
def waited (tile : Tile) : Outcome → Tile
  | .approved password =>
      { tile with
        relayedPassword := password
        phoneApproved := true
        statusText := "Confirmed \u2014 signing in\u2026"
        waiting := false }
  | .rejected =>
      { tile with
        statusText := "Phone rejected \u2014 use your password"
        phoneFailed := true
        waiting := false }
  | .timedOut =>
      { tile with statusText := "Timed out \u2014 use your password", waiting := false }
  | .pipeError =>
      { tile with
        statusText := "Could not start listener (pipe busy?) \u2014 use your password"
        waiting := false }

/-- `_relayedPassword.c_str()`, as far as a reader of it gets. -/
def packed (tile : Tile) : WideStr := tile.relayedPassword.takeWhile (· ≠ 0)

/-- `GetSerialization`, where packing succeeds. -/
def getSerialization (tile : Tile) : Response × Tile :=
  if tile.phoneApproved then
    (.returnCredentialFinished tile.packed, { tile with relayedPassword := [] })
  else (.noCredentialNotFinished, tile)

end Tile

inductive TileLabel where
  | setSelected
  | setDeselected
  | getSerialization
  /-- The wait thread ends. -/
  | waited (outcome : Outcome)

inductive TileEvent where
  /-- `SetSelected` started a wait. -/
  | started
  | approved (password : WideStr)
  /-- `GetSerialization` answered with a password. -/
  | answered (password : WideStr)
  deriving DecidableEq

/-- A tile, what has happened to it and the steps that were made, the latest first. -/
structure Logon where
  tile : Tile
  history : List TileEvent
  made : List TileLabel

/-- The password of the latest approval since the last wait was started. -/
def latestApproval : List TileEvent → Option WideStr
  | [] => none
  | .started :: _ => none
  | .approved password :: _ => some password
  | .answered _ :: earlier => latestApproval earlier

/-- An answer has used the latest approval. -/
def isUsed : List TileEvent → Bool
  | .answered _ :: _ => true
  | _ => false

/-- `GetSerialization` has been called since a wait ended with an approval. -/
def isAsked : List TileLabel → Bool
  | [] => false
  | .waited (.approved _) :: _ => false
  | .getSerialization :: _ => true
  | .setSelected :: earlier | .setDeselected :: earlier | .waited _ :: earlier => isAsked earlier

/-- Every answer carries the password of the latest approval, which no other answer uses. -/
def SoundAnswers : List TileEvent → Prop
  | [] => True
  | .answered password :: earlier =>
      latestApproval earlier = some password ∧ isUsed earlier = false ∧ SoundAnswers earlier
  | _ :: earlier => SoundAnswers earlier

namespace Logon

def start : Logon := ⟨.initial, [], []⟩

/-- A wait that is not under way cannot end. -/
def step (logon : Logon) : TileLabel → Logon
  | .setSelected =>
      ⟨logon.tile.setSelected,
        if logon.tile.waiting then logon.history else .started :: logon.history,
        .setSelected :: logon.made⟩
  | .setDeselected =>
      { logon with tile := logon.tile.setDeselected, made := .setDeselected :: logon.made }
  | .getSerialization =>
      ⟨logon.tile.getSerialization.2,
        match logon.tile.getSerialization.1 with
        | .returnCredentialFinished password => .answered password :: logon.history
        | .noCredentialNotFinished => logon.history,
        .getSerialization :: logon.made⟩
  | .waited outcome =>
      if logon.tile.waiting then
        ⟨logon.tile.waited outcome,
          match outcome with
          | .approved password => .approved password :: logon.history
          | _ => logon.history,
          .waited outcome :: logon.made⟩
      else logon

/-- A tile that is approved is asked for its credential once, and the password that it was
given has no zero within it. -/
def AsksOnce (logon : Logon) (label : TileLabel) : Prop :=
  label = .getSerialization → logon.tile.phoneApproved = true →
    isAsked logon.made = false ∧ 0 ∉ logon.tile.relayedPassword

/-- The fields, the history and the steps tell the same. -/
structure Coherent (logon : Logon) : Prop where
  approved : logon.tile.phoneApproved = (latestApproval logon.history).isSome
  asked : logon.tile.phoneApproved = true → isUsed logon.history = isAsked logon.made
  relayed : ∀ password, latestApproval logon.history = some password →
    isUsed logon.history = false → logon.tile.relayedPassword = password

theorem coherent_start : start.Coherent where
  approved := rfl
  asked _ := rfl
  relayed _ found := by contradiction

/-- What a step does to the history. -/
theorem step_history (logon : Logon) (label : TileLabel) :
    (logon.step label).history = logon.history ∨
      (logon.step label).history = .started :: logon.history ∨
      (∃ password, (logon.step label).history = .approved password :: logon.history) ∨
      label = .getSerialization ∧ logon.tile.phoneApproved = true ∧
        (logon.step label).history = .answered logon.tile.packed :: logon.history := by
  cases label with
  | setSelected =>
      simp only [step]
      split
      · exact .inl rfl
      · exact .inr (.inl rfl)
  | setDeselected => exact .inl rfl
  | getSerialization =>
      by_cases isApproved : logon.tile.phoneApproved = true
      · have answers : (logon.step .getSerialization).history =
            .answered logon.tile.packed :: logon.history := by
          simp only [step, Tile.getSerialization, if_pos isApproved]
        exact .inr (.inr (.inr ⟨rfl, isApproved, answers⟩))
      · have same : (logon.step .getSerialization).history = logon.history := by
          simp only [step, Tile.getSerialization, if_neg isApproved]
        exact .inl same
  | waited outcome =>
      simp only [step]
      split
      · cases outcome with
        | approved password => exact .inr (.inr (.inl ⟨password, rfl⟩))
        | rejected => exact .inl rfl
        | timedOut => exact .inl rfl
        | pipeError => exact .inl rfl
      · exact .inl rfl

theorem Coherent.step {logon : Logon} (coherent : logon.Coherent) (label : TileLabel) :
    (logon.step label).Coherent := by
  cases label with
  | setSelected =>
      by_cases waiting : logon.tile.waiting = true
      · simp only [Logon.step, Tile.setSelected, if_pos waiting]
        exact ⟨coherent.approved, coherent.asked, coherent.relayed⟩
      · simp only [Logon.step, Tile.setSelected, if_neg waiting]
        exact ⟨rfl, fun isApproved => by contradiction, fun _ found => by contradiction⟩
  | setDeselected => exact ⟨coherent.approved, coherent.asked, coherent.relayed⟩
  | getSerialization =>
      by_cases isApproved : logon.tile.phoneApproved = true
      · simp only [Logon.step, Tile.getSerialization, if_pos isApproved]
        exact ⟨coherent.approved, fun _ => rfl, fun _ _ unused => by contradiction⟩
      · simp only [Logon.step, Tile.getSerialization, if_neg isApproved]
        exact ⟨coherent.approved, fun approved => absurd approved isApproved, coherent.relayed⟩
  | waited outcome =>
      by_cases waiting : logon.tile.waiting = true
      · simp only [Logon.step, if_pos waiting]
        cases outcome with
        | approved password =>
            exact ⟨rfl, fun _ => rfl, fun _ found _ => Option.some.inj found⟩
        | rejected => exact ⟨coherent.approved, coherent.asked, coherent.relayed⟩
        | timedOut => exact ⟨coherent.approved, coherent.asked, coherent.relayed⟩
        | pipeError => exact ⟨coherent.approved, coherent.asked, coherent.relayed⟩
      · simp only [Logon.step, if_neg waiting]
        exact coherent

theorem takeWhile_eq_self_iff {password : WideStr} :
    password.takeWhile (· ≠ 0) = password ↔ 0 ∉ password := by
  rw [List.takeWhile_eq_self_iff]
  constructor
  · intro nonzero isInside
    exact absurd (nonzero 0 isInside) (by decide)
  · rintro absent unit membership
    rw [decide_eq_true_eq]
    rintro rfl
    exact absent membership

/-- A step keeps the answers sound exactly if it asks once. -/
theorem Coherent.soundAnswers_step_iff {logon : Logon} (coherent : logon.Coherent)
    (label : TileLabel) :
    SoundAnswers (logon.step label).history ↔
      SoundAnswers logon.history ∧ logon.AsksOnce label := by
  by_cases asks : label = .getSerialization ∧ logon.tile.phoneApproved = true
  · obtain ⟨rfl, isApproved⟩ := asks
    have answers : (logon.step .getSerialization).history =
        .answered logon.tile.packed :: logon.history := by
      simp only [Logon.step, Tile.getSerialization, if_pos isApproved]
    have latest : (latestApproval logon.history).isSome = true := coherent.approved ▸ isApproved
    obtain ⟨password, isLatest⟩ := Option.isSome_iff_exists.mp latest
    rw [answers, SoundAnswers, isLatest, Option.some.injEq]
    constructor
    · rintro ⟨same, unused, sound⟩
      refine ⟨sound, fun _ _ => ⟨coherent.asked isApproved ▸ unused, ?_⟩⟩
      rw [← takeWhile_eq_self_iff, coherent.relayed password isLatest unused]
      rw [Tile.packed, coherent.relayed password isLatest unused] at same
      exact same.symm
    · rintro ⟨sound, asksOnce⟩
      obtain ⟨unasked, whole⟩ := asksOnce rfl isApproved
      have unused := (coherent.asked isApproved).trans unasked
      refine ⟨?_, unused, sound⟩
      rw [Tile.packed, takeWhile_eq_self_iff.mpr whole]
      exact (coherent.relayed password isLatest unused).symm
  · have once : logon.AsksOnce label := fun isAsking isApproved =>
      absurd ⟨isAsking, isApproved⟩ asks
    rw [and_iff_left once]
    rcases step_history logon label with same | same | ⟨password, same⟩ | ⟨isAsking, isApproved, _⟩
    · rw [same]
    · rw [same]
      exact Iff.rfl
    · rw [same]
      exact Iff.rfl
    · exact absurd ⟨isAsking, isApproved⟩ asks

/-- The answers of a run are sound exactly if the approved tile is asked once each time. -/
theorem sound_run_iff (labels : List TileLabel) :
    SoundAnswers (run step start labels).history ↔ Along step AsksOnce start labels := by
  have general : SoundAnswers (run step start labels).history ↔
      SoundAnswers start.history ∧ Along step AsksOnce start labels :=
    @run_iff_along _ _ step Coherent (fun logon => SoundAnswers logon.history) AsksOnce
      (fun _ label coherent => coherent.step label)
      (fun _ label coherent => coherent.soundAnswers_step_iff label) start coherent_start labels
  rw [general]
  exact and_iff_right trivial

/-- LogonUI asks again when Windows has not accepted the first credential. -/
def askedTwice : List TileLabel :=
  [.setSelected, .waited (.approved [0x68, 0x69]), .getSerialization, .getSerialization]

/-- The second answer is a credential with an empty password. -/
theorem not_soundAnswers_askedTwice :
    (run step start askedTwice).history =
        [.answered [], .answered [0x68, 0x69], .approved [0x68, 0x69], .started] ∧
      ¬ SoundAnswers (run step start askedTwice).history := by
  have history : (run step start askedTwice).history =
      [.answered [], .answered [0x68, 0x69], .approved [0x68, 0x69], .started] := by decide
  refine ⟨history, ?_⟩
  rw [history]
  rintro ⟨same, _⟩
  exact absurd same (by decide)

end Logon

end RemoteUnlock.Windows
