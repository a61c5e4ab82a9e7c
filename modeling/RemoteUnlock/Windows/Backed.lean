import Mathlib.Data.List.Forall2
import Mathlib.Data.List.Nodup
import RemoteUnlock.Windows.Steps

/-!
# Every effect is signed for

An acceptance uses up a nonce that no acceptance has used before, and a connection has one
acceptance at most.  It calls once for the accepted action, and what it writes or shuts
down is the effect of that call.  So the writes of the password and the shutdowns map
injectively to nonces that were signed for (`effects_backed`).
-/

namespace RemoteUnlock.Windows

open Python Python.Items Common Library

variable {Value : Type} {platform : Platform Value}

/-! ## Signed texts -/

/-- No signature for one action is one for another. -/
theorem action_of_signedText {action other : Action} {nonce otherNonce : PyStr}
    {timestamp otherTimestamp : Text} {message : Bytes}
    (made : signedText action.text nonce timestamp = .ok message)
    (otherMade : signedText other.text otherNonce otherTimestamp = .ok message) :
    action = other := by
  have encoded {text : PyStr} (ok : encodeStr text = .ok message) :
      encode (text.map fun point => Char.ofNat point.val) = message := by
    unfold encodeStr at ok
    split_ifs at ok
    exact Except.ok.inj ok
  have same := encode_injective ((encoded made).trans (encoded otherMade).symm)
  have head (action : Action) (rest : PyStr) :
      ((action.text ++ rest).map fun point => Char.ofNat point.val).head? =
        (action.text.map fun point => Char.ofNat point.val).head? := by
    cases action <;> rfl
  have first := congrArg List.head? same
  simp only [List.append_assoc, head] at first
  revert first
  cases action <;> cases other <;> decide

/-! ## The invariant -/

/-- The acceptance is of a nonce issued shortly before, with a signature of the phone over
the action, the nonce and the timestamp. -/
structure Approved (platform : Platform Value) (world : World Value)
    (acceptance : Acceptance Value) (nonce : PyStr) : Prop where
  named : acceptance.nonce = .str nonce
  issued : ∃ issueTime, (nonce, issueTime) ∈ issuings world.history ∧
    issueTime ≤ acceptance.time ∧ acceptance.time - issueTime ≤ nonceTtl
  reached : acceptance.time ≤ world.now
  signed : ∃ text message sig, acceptance.signature = .str text ∧
    signedText acceptance.action.text nonce (platform.floatText acceptance.timestamp) =
      .ok message ∧
    fromHex text = some sig ∧ platform.verify sig message = true
  enabled : acceptance.action = .shutdown → platform.shutdownEnabled = true

/-- What is pending was issued, and every acceptance has used up a nonce of its own. -/
structure NoncesSound (platform : Platform Value) (world : World Value) : Prop where
  pending : ∀ key issued, world.service.pendingNonces.get key = some issued →
    (key, issued) ∈ issuings world.history ∧ issued ≤ world.now
  approved : List.Forall₂ (Approved platform world) (acceptances world.history)
    world.service.usedNonces.reverse
  distinct : world.service.usedNonces.Nodup

/-- Every connection accepts once, calls for what it has accepted, once and when it is
done, and its effects are calls. -/
structure PlacesSound (world : World Value) : Prop where
  absent : ∀ connection, world.arrived ≤ connection → world.place connection = .absent
  single : ((acceptances world.history).map Acceptance.connection).Nodup
  placed : ∀ acceptance ∈ acceptances world.history,
    world.place acceptance.connection = .answering true acceptance.action ∨
      world.place acceptance.connection = .done
  answering : ∀ connection action, world.place connection = .answering true action →
    (∃ acceptance ∈ acceptances world.history,
      acceptance.connection = connection ∧ acceptance.action = action) ∧
    connection ∉ (calls world.history).map Prod.fst
  called : ∀ call ∈ calls world.history, world.place call.1 = .done ∧
    ∃ acceptance ∈ acceptances world.history,
      acceptance.connection = call.1 ∧ acceptance.action = call.2
  once : ((calls world.history).map Prod.fst).Nodup
  effective : (effects world.history).Sublist (calls world.history)

theorem acceptances_append (first second : List (Event Value)) :
    acceptances (first ++ second) = acceptances first ++ acceptances second :=
  List.filterMap_append

theorem calls_append (first second : List (Event Value)) :
    calls (first ++ second) = calls first ++ calls second := List.filterMap_append

theorem effects_append (first second : List (Event Value)) :
    effects (first ++ second) = effects first ++ effects second := List.filterMap_append

theorem issuings_append (first second : List (Event Value)) :
    issuings (first ++ second) = issuings first ++ issuings second := List.filterMap_append

/-- An approval is not withdrawn. -/
theorem Approved.later {before after : World Value} {acceptance : Acceptance Value}
    {nonce : PyStr} (approved : Approved platform before acceptance nonce)
    (forward : before.now ≤ after.now) {events : List (Event Value)}
    (history : after.history = before.history ++ events) :
    Approved platform after acceptance nonce := by
  obtain ⟨issueTime, issued, bounds⟩ := approved.issued
  refine ⟨approved.named, ⟨issueTime, ?_, bounds⟩, ?_, approved.signed, approved.enabled⟩
  · rw [history, issuings_append]
    exact List.mem_append_left _ issued
  · exact approved.reached.trans (by exact_mod_cast forward)

/-! ## Nonces -/

theorem noncesSound_start : NoncesSound platform (World.start : World Value) where
  pending _ _ found := by simp [World.start, UnlockService.init] at found
  approved := .nil
  distinct := List.nodup_nil

/-- The nonces stay sound where none becomes pending and none is used. -/
theorem NoncesSound.kept {before after : World Value} (sound : NoncesSound platform before)
    (forward : before.now ≤ after.now) {events : List (Event Value)}
    (history : after.history = before.history ++ events) (none : acceptances events = [])
    (used : after.service.usedNonces = before.service.usedNonces)
    (pending : NonePending before.service after.service) : NoncesSound platform after where
  pending key issued found := by
    obtain ⟨membership, old⟩ := sound.pending key issued (pending key issued found)
    rw [history, issuings_append]
    exact ⟨List.mem_append_left _ membership, old.trans (by exact_mod_cast forward)⟩
  approved := by
    rw [history, acceptances_append, none, List.append_nil, used]
    exact sound.approved.imp fun _ _ approved => approved.later forward history
  distinct := used ▸ sound.distinct

theorem NoncesSound.step {before after : World Value} {label : Label}
    (sound : NoncesSound platform before) (stepped : StepCase platform before label after) :
    NoncesSound platform after := by
  cases stepped with
  | passes seconds same =>
      subst same
      have forward : before.now ≤ before.now + seconds := le_add_of_nonneg_right seconds.2
      exact sound.kept forward (List.append_nil _).symm rfl rfl (nonePending_refl _)
  | comes nonce challenge issued service now arrived place history =>
      refine ⟨fun key issueTime found => ?_, ?_, ?_⟩
      · rw [history, issuings_append, now]
        rw [service] at found
        rcases UnlockService.issueChallenge_pending platform found with ⟨rfl, rfl⟩ | old
        · refine ⟨List.mem_append_right _ ?_, le_refl _⟩
          rw [← issued.1, ← issued.2]
          exact List.mem_singleton_self _
        · exact ⟨List.mem_append_left _ (sound.pending key issueTime old).1,
            (sound.pending key issueTime old).2⟩
      · rw [history, acceptances_append, service]
        change List.Forall₂ _ (acceptances before.history ++ []) _
        rw [List.append_nil]
        exact sound.approved.imp fun _ _ approved => approved.later now.ge history
      · rw [service]
        exact sound.distinct
  | turns connection place events calm was will used pending moves =>
      exact sound.kept moves.now.ge moves.history calm.acceptances used pending
  | accepts acceptance name issueTime was time approval enabled used pending moves =>
      obtain ⟨issued, old⟩ := sound.pending name issueTime approval.pending
      have signed := (UnlockService.isSigned_iff platform).mp approval.signed
      have approved : Approved platform after acceptance name := by
        refine ⟨approval.named, ⟨issueTime, ?_, time ▸ old, time ▸ approval.fresh⟩, ?_, ?_, enabled⟩
        · rw [moves.history, issuings_append]
          exact List.mem_append_left _ issued
        · rw [time, moves.now]
        · exact signed
      refine ⟨fun key issueTime found => ?_, ?_, ?_⟩
      · obtain ⟨membership, before⟩ := sound.pending key issueTime (pending key issueTime found)
        rw [moves.history, issuings_append, moves.now]
        exact ⟨List.mem_append_left _ membership, before⟩
      · rw [moves.history, acceptances_append, used, List.reverse_cons]
        apply List.rel_append
        · exact sound.approved.imp fun _ _ approved => approved.later moves.now.ge moves.history
        · exact .cons approved .nil
      · rw [used, List.nodup_cons]
        exact ⟨approval.unused, sound.distinct⟩
  | acts connection action events was acts service moves =>
      exact sound.kept moves.now.ge moves.history acts.acceptances (by rw [service])
        (by rw [service]; exact nonePending_refl _)
  | loses connection action events calm sent was service moves =>
      exact sound.kept moves.now.ge moves.history calm.acceptances (by rw [service])
        (by rw [service]; exact nonePending_refl _)

/-! ## Places -/

theorem placesSound_start : PlacesSound (World.start : World Value) where
  absent _ _ := rfl
  single := List.nodup_nil
  placed _ membership := absurd membership List.not_mem_nil
  answering _ _ place := by simp [World.start] at place
  called _ membership := absurd membership List.not_mem_nil
  once := List.nodup_nil
  effective := List.Sublist.refl _

/-- Where an undecided connection moves without a call, or one comes, the places stay sound. -/
theorem PlacesSound.kept {before after : World Value} (sound : PlacesSound before)
    {connection : ℕ} {place : Place} {events : List (Event Value)}
    (silent : calls events = [] ∧ effects events = [] ∧ acceptances events = [])
    (undecided : before.place connection ≠ .done ∧
      ∀ action, before.place connection ≠ .answering true action)
    (will : ∀ action, place ≠ .answering true action)
    (placed : after.place = Function.update before.place connection place)
    (absent : ∀ connection, after.arrived ≤ connection → after.place connection = .absent)
    (history : after.history = before.history ++ events) : PlacesSound after := by
  have sameAcceptances : acceptances after.history = acceptances before.history := by
    rw [history, acceptances_append, silent.2.2, List.append_nil]
  have sameCalls : calls after.history = calls before.history := by
    rw [history, calls_append, silent.1, List.append_nil]
  have sameEffects : effects after.history = effects before.history := by
    rw [history, effects_append, silent.2.1, List.append_nil]
  have elsewhere {other : ℕ} (different : other ≠ connection) :
      after.place other = before.place other := by
    rw [placed, Function.update_of_ne different]
  refine ⟨absent, ?_, ?_, ?_, ?_, ?_, ?_⟩
  · rw [sameAcceptances]
    exact sound.single
  · rw [sameAcceptances]
    intro acceptance membership
    have old := sound.placed acceptance membership
    rw [elsewhere]
    · exact old
    · rintro rfl
      exact old.elim (undecided.2 _) undecided.1
  · rw [sameAcceptances, sameCalls]
    intro other action answers
    by_cases same : other = connection
    · rw [same, placed, Function.update_self] at answers
      exact absurd answers (will action)
    · rw [elsewhere same] at answers
      exact sound.answering other action answers
  · rw [sameAcceptances, sameCalls]
    intro call membership
    obtain ⟨isDone, accepted⟩ := sound.called call membership
    refine ⟨?_, accepted⟩
    rw [elsewhere]
    · exact isDone
    · rintro rfl
      exact undecided.1 isDone
  · rw [sameCalls]
    exact sound.once
  · rw [sameEffects, sameCalls]
    exact sound.effective

/-- The connection leaves its answer, having called for the action or not. -/
theorem PlacesSound.left {before after : World Value} (sound : PlacesSound before)
    {connection : ℕ} {action : Action} {events : List (Event Value)}
    (was : before.place connection = .answering true action)
    (acceptances : acceptances events = [])
    (called : calls events = [] ∨ calls events = [(connection, action)])
    (effective : (effects events).Sublist (calls events))
    (moves : Moves before after connection .done events) : PlacesSound after := by
  obtain ⟨accepted, idle⟩ := sound.answering connection action was
  have sameAcceptances : Windows.acceptances after.history =
      Windows.acceptances before.history := by
    rw [moves.history, acceptances_append, acceptances, List.append_nil]
  have moreCalls : calls after.history = calls before.history ++ calls events := by
    rw [moves.history, calls_append]
  have isDone : after.place connection = .done := by rw [moves.place, Function.update_self]
  have elsewhere {other : ℕ} (different : other ≠ connection) :
      after.place other = before.place other := by
    rw [moves.place, Function.update_of_ne different]
  refine ⟨fun other late => ?_, ?_, ?_, ?_, ?_, ?_, ?_⟩
  · rw [moves.arrived] at late
    have absent := sound.absent other late
    rw [elsewhere]
    · exact absent
    · rintro rfl
      simp [was] at absent
  · rw [sameAcceptances]
    exact sound.single
  · rw [sameAcceptances]
    intro acceptance membership
    by_cases same : acceptance.connection = connection
    · rw [same]
      exact .inr isDone
    · rw [elsewhere same]
      exact sound.placed acceptance membership
  · intro other otherAction answers
    have different : other ≠ connection := by
      rintro rfl
      simp [isDone] at answers
    rw [elsewhere different] at answers
    obtain ⟨otherAccepted, otherIdle⟩ := sound.answering other otherAction answers
    rw [sameAcceptances]
    refine ⟨otherAccepted, ?_⟩
    rw [moreCalls, List.map_append, List.mem_append, not_or]
    refine ⟨otherIdle, ?_⟩
    rcases called with none | one
    · simp [none]
    · simpa [one] using different
  · intro call membership
    rw [sameAcceptances]
    rw [moreCalls, List.mem_append] at membership
    rcases membership with old | isNew
    · obtain ⟨finished, backing⟩ := sound.called call old
      refine ⟨?_, backing⟩
      rw [elsewhere]
      · exact finished
      · rintro rfl
        simp [was] at finished
    · rcases called with none | one
      · simp [none] at isNew
      · rw [one, List.mem_singleton] at isNew
        subst isNew
        exact ⟨isDone, accepted⟩
  · rw [moreCalls, List.map_append, List.nodup_append]
    refine ⟨sound.once, ?_, ?_⟩
    · rcases called with none | one
      · simp [none]
      · simp [one]
    · rintro first inFirst second inSecond rfl
      rcases called with none | one
      · simp [none] at inSecond
      · rw [one, List.map_singleton, List.mem_singleton] at inSecond
        rw [inSecond] at inFirst
        exact idle inFirst
  · rw [moves.history, effects_append, calls_append]
    exact sound.effective.append effective

theorem PlacesSound.step {before after : World Value} {label : Label}
    (sound : PlacesSound before) (stepped : StepCase platform before label after) :
    PlacesSound after := by
  cases stepped with
  | passes seconds same =>
      subst same
      exact ⟨sound.absent, sound.single, sound.placed, sound.answering, sound.called, sound.once,
        sound.effective⟩
  | comes nonce challenge issued service now arrived place history =>
      have absent := sound.absent before.arrived le_rfl
      have silent : calls ([.issued challenge] : List (Event Value)) = [] ∧
          effects ([.issued challenge] : List (Event Value)) = [] ∧
          acceptances ([.issued challenge] : List (Event Value)) = [] := ⟨rfl, rfl, rfl⟩
      refine sound.kept silent ?_ ?_ place ?_ history
      · simp [absent]
      · simp
      · intro other late
        rw [arrived] at late
        rw [place, Function.update_of_ne (by omega)]
        exact sound.absent other (by omega)
  | turns connection place events calm was will used pending moves =>
      have undecided : before.place connection ≠ .done ∧
          ∀ action, before.place connection ≠ .answering true action := by
        constructor
        · intro isDone
          simp [isDone, Place.Undecided] at was
        · intro action answers
          simp [answers, Place.Undecided] at was
      refine sound.kept ⟨calm.calls, calm.effects, calm.acceptances⟩ undecided will moves.place ?_
        moves.history
      intro other late
      rw [moves.arrived] at late
      have absent := sound.absent other late
      rw [moves.place, Function.update_of_ne]
      · exact absent
      · rintro rfl
        simp [absent, Place.Undecided] at was
  | accepts acceptance name issueTime was time approval enabled used pending moves =>
      have more : acceptances after.history = acceptances before.history ++ [acceptance] := by
        rw [moves.history, acceptances_append]
        rfl
      have sameCalls : calls after.history = calls before.history := by
        rw [moves.history, calls_append]
        exact List.append_nil _
      have sameEffects : effects after.history = effects before.history := by
        rw [moves.history, effects_append]
        exact List.append_nil _
      have answers : after.place acceptance.connection = .answering true acceptance.action := by
        rw [moves.place, Function.update_self]
      have elsewhere {other : ℕ} (different : other ≠ acceptance.connection) :
          after.place other = before.place other := by
        rw [moves.place, Function.update_of_ne different]
      have unaccepted : ∀ other ∈ acceptances before.history,
          other.connection ≠ acceptance.connection := by
        intro other membership same
        have old := sound.placed other membership
        rw [same, was] at old
        simp at old
      have uncalled : ∀ call ∈ calls before.history, call.1 ≠ acceptance.connection := by
        intro call membership same
        have isDone := (sound.called call membership).1
        rw [same, was] at isDone
        contradiction
      refine ⟨fun other late => ?_, ?_, ?_, ?_, ?_, ?_, ?_⟩
      · rw [moves.arrived] at late
        have absent := sound.absent other late
        rw [elsewhere]
        · exact absent
        · rintro rfl
          simp [was] at absent
      · rw [more, List.map_append, List.nodup_append]
        refine ⟨sound.single, List.nodup_singleton _, ?_⟩
        rintro first inFirst second inSecond rfl
        obtain ⟨other, membership, rfl⟩ := List.mem_map.mp inFirst
        exact unaccepted other membership (List.mem_singleton.mp inSecond)
      · rw [more, List.forall_mem_append, List.forall_mem_singleton]
        refine ⟨fun other membership => ?_, .inl answers⟩
        rw [elsewhere (unaccepted other membership)]
        exact sound.placed other membership
      · intro other action answering
        rw [more, sameCalls]
        by_cases same : other = acceptance.connection
        · subst same
          rw [answers, Place.answering.injEq] at answering
          refine ⟨⟨acceptance, by simp, rfl, answering.2⟩, ?_⟩
          intro membership
          obtain ⟨call, isCall, own⟩ := List.mem_map.mp membership
          exact uncalled call isCall own
        · rw [elsewhere same] at answering
          obtain ⟨⟨accepted, membership, owner⟩, idle⟩ := sound.answering other action answering
          exact ⟨⟨accepted, List.mem_append_left _ membership, owner⟩, idle⟩
      · rw [more, sameCalls]
        intro call membership
        obtain ⟨isDone, accepted, inBefore, owner⟩ := sound.called call membership
        rw [elsewhere (uncalled call membership)]
        exact ⟨isDone, accepted, List.mem_append_left _ inBefore, owner⟩
      · rw [sameCalls]
        exact sound.once
      · rw [sameEffects, sameCalls]
        exact sound.effective
  | acts connection action events was acts service moves =>
      refine sound.left was acts.acceptances (.inr acts.calls) ?_ moves
      rw [acts.calls]
      rcases acts.effects with none | one
      · rw [none]
        exact List.nil_sublist _
      · rw [one]
  | loses connection action events calm sent was service moves =>
      refine sound.left was calm.acceptances (.inl calm.calls) ?_ moves
      rw [calm.effects, calm.calls]

/-! ## Runs -/

theorem sound_run (platform : Platform Value) (labels : List Label) :
    NoncesSound platform (run (World.step platform) World.start labels) ∧
      PlacesSound (run (World.step platform) World.start labels) := by
  have keeps : ∀ (world : World Value) (label : Label),
      NoncesSound platform world ∧ PlacesSound world →
      NoncesSound platform (World.step platform world label) ∧
        PlacesSound (World.step platform world label) := by
    intro world label sound
    rcases step_cases platform world label with same | stepped
    · rw [same]
      exact sound
    · exact ⟨sound.1.step stepped, sound.2.step stepped⟩
  exact run_invariant keeps ⟨noncesSound_start, placesSound_start⟩ labels

/-- What stands for distinct origins can be named by them. -/
theorem exists_injOn_of_forall₂ {First Second Name : Type*} [DecidableEq Name] [Inhabited Second]
    {related : First → Second → Prop} {name : First → Name} {firsts : List First}
    {seconds : List Second} (pairs : List.Forall₂ related firsts seconds)
    (distinct : seconds.Nodup) (named : (firsts.map name).Nodup) :
    ∃ origin : Name → Second, (∀ first ∈ firsts, related first (origin (name first)) ∧
        origin (name first) ∈ seconds) ∧
      Set.InjOn origin {other | other ∈ firsts.map name} := by
  induction pairs with
  | nil => exact ⟨fun _ => default, by simp, by simp⟩
  | @cons first second firsts seconds pair pairs inductionHypothesis =>
      rw [List.nodup_cons] at distinct
      rw [List.map_cons, List.nodup_cons] at named
      obtain ⟨origin, matched, injective⟩ := inductionHypothesis distinct.2 named.2
      have elsewhere {other : Name} (membership : other ∈ firsts.map name) :
          Function.update origin (name first) second other = origin other := by
        rw [Function.update_of_ne]
        rintro rfl
        exact named.1 membership
      refine ⟨Function.update origin (name first) second, ?_, ?_⟩
      · rw [List.forall_mem_cons, Function.update_self]
        refine ⟨⟨pair, List.mem_cons_self⟩, fun other membership => ?_⟩
        rw [elsewhere (List.mem_map_of_mem membership)]
        exact ⟨(matched other membership).1, List.mem_cons_of_mem _ (matched other membership).2⟩
      · have apart {other : Name} (membership : other ∈ firsts.map name) :
            origin other ≠ second := by
          obtain ⟨source, isSource, rfl⟩ := List.mem_map.mp membership
          exact fun same => distinct.1 (same ▸ (matched source isSource).2)
        intro one inOne two inTwo same
        rcases List.mem_cons.mp inOne with rfl | inOne <;>
          rcases List.mem_cons.mp inTwo with rfl | inTwo
        · rfl
        · rw [Function.update_self, elsewhere inTwo] at same
          exact absurd same.symm (apart inTwo)
        · rw [Function.update_self, elsewhere inOne] at same
          exact absurd same (apart inOne)
        · rw [elsewhere inOne, elsewhere inTwo] at same
          exact injective inOne inTwo same

/-- The password is written and the machine shut down only for a signature of the phone
over that very action and a nonce that stands for no other effect: in every run the effects
map injectively to the nonces of acceptances, and no bytes are signed for two actions. -/
theorem effects_backed (platform : Platform Value) (labels : List Label) :
    let world := run (World.step platform) World.start labels
    ∃ nonce : ℕ → PyStr,
      ((effects world.history).map fun effect => nonce effect.1).Nodup ∧
        ∀ effect ∈ effects world.history, ∃ acceptance ∈ acceptances world.history,
          acceptance.connection = effect.1 ∧ acceptance.action = effect.2 ∧
            Approved platform world acceptance (nonce effect.1) ∧
            ∀ other otherNonce otherTimestamp message, other ≠ effect.2 →
              signedText effect.2.text (nonce effect.1)
                (platform.floatText acceptance.timestamp) = .ok message →
              signedText other.text otherNonce otherTimestamp ≠ .ok message := by
  intro world
  obtain ⟨nonces, places⟩ := sound_run platform labels
  have distinct : world.service.usedNonces.reverse.Nodup := List.nodup_reverse.mpr nonces.distinct
  obtain ⟨nonce, matched, injective⟩ :=
    exists_injOn_of_forall₂ nonces.approved distinct places.single
  have backed : ∀ effect ∈ effects world.history, ∃ acceptance ∈ acceptances world.history,
      acceptance.connection = effect.1 ∧ acceptance.action = effect.2 := fun effect membership =>
    (places.called effect (places.effective.subset membership)).2
  have apart : ((effects world.history).map Prod.fst).Nodup :=
    (places.effective.map Prod.fst).nodup places.once
  refine ⟨nonce, ?_, fun effect membership => ?_⟩
  · have composed : (effects world.history).map (fun effect => nonce effect.1) =
        ((effects world.history).map Prod.fst).map nonce := by
      rw [List.map_map]
      rfl
    rw [composed]
    apply List.Nodup.map_on _ apart
    intro first inFirst second inSecond same
    refine injective ?_ ?_ same
    · obtain ⟨effect, membership, rfl⟩ := List.mem_map.mp inFirst
      obtain ⟨acceptance, isAcceptance, own, _⟩ := backed effect membership
      exact List.mem_map.mpr ⟨acceptance, isAcceptance, own⟩
    · obtain ⟨effect, membership, rfl⟩ := List.mem_map.mp inSecond
      obtain ⟨acceptance, isAcceptance, own, _⟩ := backed effect membership
      exact List.mem_map.mpr ⟨acceptance, isAcceptance, own⟩
  · obtain ⟨acceptance, isAcceptance, own, sameAction⟩ := backed effect membership
    refine ⟨acceptance, isAcceptance, own, sameAction, ?_, ?_⟩
    · rw [← own]
      exact (matched acceptance isAcceptance).1
    · intro other _ _ message different made otherMade
      exact different (action_of_signedText otherMade made)

end RemoteUnlock.Windows
