import Mathlib.Data.List.Induction
import RemoteUnlock.Windows.Backed

/-!
# What becomes of an accepted command

Between `verify` and the effect the handler sends the verdict to its peer.  Where this
raises, the `except` clauses end the handler: the nonce is used up and the command is lost
for good (`Lost.step`).  That is the only way: in a run without it every accepted command
is called for, exactly once.
-/

namespace RemoteUnlock.Windows

open Python Python.Items Common Library

variable {Value : Type} {platform : Platform Value}

/-- Every accepted command is still being answered, or its connection is done and has made
exactly the one call. -/
def TakesEffect (world : World Value) : Prop :=
  ∀ acceptance ∈ acceptances world.history,
    (world.place acceptance.connection = .answering true acceptance.action ∧
      (calls world.history).filter (fun call => call.1 = acceptance.connection) = []) ∨
    (world.place acceptance.connection = .done ∧
      (calls world.history).filter (fun call => call.1 = acceptance.connection) =
        [(acceptance.connection, acceptance.action)])

/-- The sending of a verdict `True` does not raise. -/
def Delivers (world : World Value) : Label → Prop
  | .sent connection (some _) _ _ => ∀ action, world.place connection ≠ .answering true action
  | _ => True

/-- A connection whose command was accepted is done without having called for it. -/
structure Lost (world : World Value) (connection : ℕ) : Prop where
  accepted : ∃ acceptance ∈ acceptances world.history, acceptance.connection = connection
  isDone : world.place connection = .done
  uncalled : connection ∉ (calls world.history).map Prod.fst

/-- Of distinct names only one is its own. -/
theorem filter_eq_singleton {commands : List (ℕ × Action)}
    (distinct : (commands.map Prod.fst).Nodup) {command : ℕ × Action}
    (membership : command ∈ commands) :
    commands.filter (fun call => call.1 = command.1) = [command] := by
  induction commands with
  | nil => contradiction
  | cons first rest inductionHypothesis =>
      rw [List.map_cons, List.nodup_cons] at distinct
      rcases List.mem_cons.mp membership with rfl | later
      · rw [List.filter_cons_of_pos (by simp), List.filter_eq_nil_iff.mpr]
        intro call isLater same
        apply distinct.1
        rw [← of_decide_eq_true same]
        exact List.mem_map_of_mem isLater
      · have different : first.1 ≠ command.1 := by
          intro same
          apply distinct.1
          rw [same]
          exact List.mem_map_of_mem later
        rw [List.filter_cons_of_neg (by simpa using different)]
        exact inductionHypothesis distinct.2 later

theorem filter_eq_nil_of_uncalled {history : List (Event Value)} {connection : ℕ}
    (uncalled : connection ∉ (calls history).map Prod.fst) :
    (calls history).filter (fun call => call.1 = connection) = [] := by
  rw [List.filter_eq_nil_iff]
  intro call membership same
  exact uncalled (List.mem_map.mpr ⟨call, membership, by simpa using same⟩)

/-- In a sound world all commands take effect unless one is lost. -/
theorem takesEffect_iff {world : World Value} (sound : PlacesSound world) :
    TakesEffect world ↔ ¬∃ connection, Lost world connection := by
  constructor
  · rintro takes ⟨connection, ⟨acceptance, membership, rfl⟩, isDone, uncalled⟩
    rcases takes acceptance membership with ⟨answers, _⟩ | ⟨_, called⟩
    · simp [isDone] at answers
    · rw [filter_eq_nil_of_uncalled uncalled] at called
      contradiction
  · intro noneLost acceptance membership
    rcases sound.placed acceptance membership with answers | isDone
    · exact .inl ⟨answers, filter_eq_nil_of_uncalled (sound.answering _ _ answers).2⟩
    · right
      refine ⟨isDone, ?_⟩
      have called : acceptance.connection ∈ (calls world.history).map Prod.fst := by
        by_contra uncalled
        exact noneLost ⟨_, ⟨acceptance, membership, rfl⟩, isDone, uncalled⟩
      obtain ⟨call, isCall, own⟩ := List.mem_map.mp called
      obtain ⟨_, other, isAcceptance, owner, sameAction⟩ := sound.called call isCall
      have same : other = acceptance :=
        List.inj_on_of_nodup_map sound.single isAcceptance membership (owner.trans own)
      have isCommand : call = (acceptance.connection, acceptance.action) :=
        Prod.ext own (by rw [← sameAction, same])
      rw [isCommand] at isCall
      exact filter_eq_singleton sound.once isCall

/-! ## Steps -/

/-- What a connection has lost, no further events bring back. -/
theorem Lost.later {before after : World Value} {connection : ℕ} (lost : Lost before connection)
    (place : after.place connection = before.place connection) {events : List (Event Value)}
    (history : after.history = before.history ++ events)
    (uncalled : ∀ call ∈ calls events, call.1 ≠ connection) : Lost after connection where
  accepted := by
    obtain ⟨acceptance, membership, own⟩ := lost.accepted
    rw [history, acceptances_append]
    exact ⟨acceptance, List.mem_append_left _ membership, own⟩
  isDone := place.trans lost.isDone
  uncalled := by
    rw [history, calls_append, List.map_append, List.mem_append]
    rintro (old | new)
    · exact lost.uncalled old
    · obtain ⟨call, membership, own⟩ := List.mem_map.mp new
      exact uncalled call membership own

/-- A connection whose place is kept had lost before what it has lost now. -/
theorem Lost.earlier {before after : World Value} {connection : ℕ} (lost : Lost after connection)
    (place : after.place connection = before.place connection) {events : List (Event Value)}
    (history : after.history = before.history ++ events)
    (unaccepted : ∀ acceptance ∈ acceptances events, acceptance.connection ≠ connection) :
    Lost before connection where
  accepted := by
    obtain ⟨acceptance, membership, own⟩ := lost.accepted
    rw [history, acceptances_append, List.mem_append] at membership
    rcases membership with old | new
    · exact ⟨acceptance, old, own⟩
    · exact absurd own (unaccepted acceptance new)
  isDone := place.symm.trans lost.isDone
  uncalled called := by
    apply lost.uncalled
    rw [history, calls_append, List.map_append]
    exact List.mem_append_left _ called

theorem Moves.elsewhere {before after : World Value} {connection other : ℕ} {place : Place}
    {events : List (Event Value)} (moves : Moves before after connection place events)
    (different : other ≠ connection) : after.place other = before.place other := by
  rw [moves.place, Function.update_of_ne different]

/-- A lost command stays lost. -/
theorem Lost.step {before after : World Value} {label : Label} {lostOne : ℕ}
    (sound : PlacesSound before) (lost : Lost before lostOne)
    (stepped : StepCase platform before label after) : Lost after lostOne := by
  have isDone := lost.isDone
  cases stepped with
  | passes seconds same =>
      subst same
      exact lost.later rfl (List.append_nil _).symm (by simp [calls])
  | comes nonce challenge issued service now arrived place history =>
      refine lost.later ?_ history (by simp [calls, Event.call])
      rw [place, Function.update_of_ne]
      rintro rfl
      simp [sound.absent before.arrived le_rfl] at isDone
  | turns connection place events calm was will used pending moves =>
      refine lost.later (moves.elsewhere ?_) moves.history (by simp [calm.calls])
      rintro rfl
      simp [isDone, Place.Undecided] at was
  | accepts acceptance name issueTime was time approval enabled used pending moves =>
      refine lost.later (moves.elsewhere ?_) moves.history (by simp [calls, Event.call])
      rintro rfl
      simp [isDone] at was
  | acts connection action events was acts service moves =>
      have different : lostOne ≠ connection := by
        rintro rfl
        simp [isDone] at was
      apply lost.later (moves.elsewhere different) moves.history
      simpa [acts.calls] using different.symm
  | loses connection action events calm sent was service moves =>
      refine lost.later (moves.elsewhere ?_) moves.history (by simp [calm.calls])
      rintro rfl
      simp [isDone] at was

/-- Where the verdict is delivered no command gets lost. -/
theorem Lost.of_step {before after : World Value} {label : Label} {lostOne : ℕ}
    (sound : PlacesSound before) (delivers : Delivers before label)
    (stepped : StepCase platform before label after) (lost : Lost after lostOne) :
    Lost before lostOne := by
  cases stepped with
  | passes seconds same =>
      subst same
      exact lost.earlier rfl (List.append_nil _).symm (by simp [acceptances])
  | comes nonce challenge issued service now arrived place history =>
      refine lost.earlier ?_ history (by simp [acceptances, Event.acceptance])
      rw [place, Function.update_of_ne]
      rintro rfl
      have isDone := lost.isDone
      rw [place, Function.update_self] at isDone
      contradiction
  | turns connection place events calm was will used pending moves =>
      refine lost.earlier (moves.elsewhere ?_) moves.history (by simp [calm.acceptances])
      rintro rfl
      obtain ⟨acceptance, membership, rfl⟩ := lost.accepted
      rw [moves.history, acceptances_append, calm.acceptances, List.append_nil] at membership
      rcases sound.placed acceptance membership with answers | isDone
      · simp [answers, Place.Undecided] at was
      · simp [isDone, Place.Undecided] at was
  | accepts acceptance name issueTime was time approval enabled used pending moves =>
      have different : lostOne ≠ acceptance.connection := by
        rintro rfl
        have isDone := lost.isDone
        rw [moves.place, Function.update_self] at isDone
        contradiction
      apply lost.earlier (moves.elsewhere different) moves.history
      simpa [acceptances, Event.acceptance] using different.symm
  | acts connection action events was acts service moves =>
      refine lost.earlier (moves.elsewhere ?_) moves.history (by simp [acts.acceptances])
      rintro rfl
      apply lost.uncalled
      rw [moves.history, calls_append, acts.calls]
      simp
  | loses connection action events calm sent was service moves =>
      obtain ⟨exc, pipe, again, rfl⟩ := sent
      exact absurd was (delivers action)

/-- A verdict `True` that is not delivered loses the command. -/
theorem lost_of_not_delivers {world : World Value} {label : Label} (sound : PlacesSound world)
    (fails : ¬ Delivers world label) :
    ∃ connection, Lost (world.step platform label) connection := by
  cases label with
  | sent connection failure pipe again =>
      cases failure with
      | none => exact absurd trivial fails
      | some exc =>
          simp only [Delivers, not_forall, not_not] at fails
          obtain ⟨action, answers⟩ := fails
          obtain ⟨accepted, uncalled⟩ := sound.answering connection action answers
          obtain ⟨acceptance, membership, own, _⟩ := accepted
          have stepped : world.step platform (.sent connection (some exc) pipe again) =
              world.move connection .done (handle platform connection exc pipe) := by
            simp only [World.step, answers]
          have calm := calm_handle platform connection exc pipe
          rw [stepped]
          refine ⟨connection, ⟨acceptance, ?_, own⟩, Function.update_self .., ?_⟩
          · rw [World.move, acceptances_append]
            exact List.mem_append_left _ membership
          · rw [World.move, calls_append, calm.calls, List.append_nil]
            exact uncalled
  | pass seconds => exact absurd trivial fails
  | connect random pipe => exact absurd trivial fails
  | greeted connection failure pipe => exact absurd trivial fails
  | received connection message pipe => exact absurd trivial fails

/-! ## Runs -/

/-- In exactly the runs in which no sending of a verdict `True` raises, every accepted
command takes effect. -/
theorem takesEffect_run_iff (platform : Platform Value) (labels : List Label) :
    TakesEffect (run (World.step platform) World.start labels) ↔
      Along (World.step platform) Delivers World.start labels := by
  rw [takesEffect_iff (sound_run platform labels).2]
  induction labels using List.reverseRecOn with
  | nil =>
      refine iff_of_true ?_ trivial
      rintro ⟨connection, lost⟩
      exact absurd lost.isDone (by simp [World.start])
  | append_singleton labels label inductionHypothesis =>
      have sound := (sound_run platform labels).2
      rw [Along.append, ← inductionHypothesis, run_append]
      simp only [run_cons, run_nil, Along, and_true]
      generalize run (World.step platform) World.start labels = world at sound
      constructor
      · intro noneLost
        refine ⟨?_, by_contra fun fails => noneLost (lost_of_not_delivers sound fails)⟩
        rintro ⟨connection, lost⟩
        apply noneLost
        refine ⟨connection, ?_⟩
        rcases step_cases platform world label with same | stepped
        · rw [same]
          exact lost
        · exact lost.step sound stepped
      · rintro ⟨noneLost, delivers⟩ ⟨connection, lost⟩
        apply noneLost
        refine ⟨connection, ?_⟩
        rcases step_cases platform world label with same | stepped
        · rw [same] at lost
          exact lost
        · exact lost.of_step sound delivers stepped

/-! ## A lost shutdown -/

/-- A phone that has signed the shutdown of the challenge of 16 zero bytes at 1000 s. -/
def samplePlatform : Platform ℤ where
  sign message := message
  verify sig message := sig = [42] ∧ signedText (py "shutdown") (hex (List.replicate 16 0))
    "1000.0".toList = .ok message
  password := py "hunter2"
  shutdownEnabled := true
  clockText now := (toString now.floor).toList ++ ".0".toList
  float value :=
    match value with
    | .int value => .ok value
    | _ => .error .valueError
  floatText value := (toString value).toList ++ ".0".toList
  isApart now timestamp limit := limit < |now - timestamp|

def signedShutdown : Json :=
  .obj [(py "type", .str (py "response")), (py "action", .str (py "shutdown")),
    (py "nonce", .str (hex (List.replicate 16 0))), (py "timestamp", .int 1000),
    (py "signature", .str (py "2a"))]

/-- The phone answers, and is gone when the verdict is sent. -/
def goneLabels : List Label :=
  [.pass 1000, .connect (List.replicate 16 0) .absent, .greeted 0 none .absent,
    .received 0 (.ok signedShutdown) .absent, .sent 0 (some .connectionClosed) .absent .absent]

/-- Not every accepted command takes effect: the shutdown is accepted and never called for. -/
theorem not_takesEffect :
    let world := run (World.step samplePlatform) World.start goneLabels
    (acceptances world.history).map Acceptance.action = [.shutdown] ∧
      calls world.history = [] ∧ ¬ TakesEffect world := by
  intro world
  have accepted : (acceptances world.history).map Acceptance.action = [.shutdown] := by
    decide +kernel
  have uncalled : calls world.history = [] := by decide +kernel
  have own : ∀ acceptance ∈ acceptances world.history, acceptance.connection = 0 := by
    have connections : (acceptances world.history).map Acceptance.connection = [0] := by
      decide +kernel
    intro acceptance membership
    apply List.mem_singleton.mp
    rw [← connections]
    exact List.mem_map_of_mem membership
  refine ⟨accepted, uncalled, fun takes => ?_⟩
  obtain ⟨acceptance, membership, _⟩ := List.mem_map.mp
    (accepted.symm ▸ List.mem_singleton_self (Action.shutdown))
  rcases takes acceptance membership with ⟨answers, _⟩ | ⟨_, called⟩
  · have isDone : world.place 0 = .done := by decide +kernel
    rw [own acceptance membership, isDone] at answers
    contradiction
  · rw [uncalled] at called
    contradiction

end RemoteUnlock.Windows
