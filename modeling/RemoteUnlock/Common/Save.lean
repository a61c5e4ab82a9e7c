import RemoteUnlock.Common.Config

/-!
# Saving a configuration

`save` writes the loaded data as indented JSON.  What is loaded from it again are the same
fields with every value read back (`parseConfig_saved`), and a value with no surrogate pair
and no repeated key is read back as it is: it is `Settled`.
-/

namespace RemoteUnlock.Common

open Python Python.Items

/-- What a value becomes by being written and read. -/
def reloaded (value : Json) : Json := value.joinPairs.buildDicts

/-- A value that is read back as it was written. -/
def Settled (value : Json) : Prop := reloaded value = value

/-- The text `save` writes. -/
def savedText (data : Dict) : Text := Json.dumpsIndent 2 (.obj data)

/-- Keys without surrogate pairs. -/
def PlainKeys (members : Dict) : Prop := ∀ member ∈ members, PyStr.joinPairs member.1 = member.1

@[simp]
theorem reloaded_str (text : PyStr) : reloaded (.str text) = .str text.joinPairs := by
  simp [reloaded, Json.joinPairs, Json.buildDicts]

@[simp]
theorem reloaded_bool (value : Bool) : reloaded (.bool value) = .bool value := rfl

@[simp]
theorem reloaded_arr (elements : List Json) :
    reloaded (.arr elements) = .arr (elements.map reloaded) := by
  rw [reloaded, Json.joinPairs_arr, Json.buildDicts_arr, List.map_map]
  rfl

theorem reloaded_obj {members : Dict} (plain : PlainKeys members) :
    reloaded (.obj members) =
      .obj (ofPairs (members.map fun member => (member.1, reloaded member.2))) := by
  rw [reloaded, Json.joinPairs_obj, Json.buildDicts_obj, List.map_map]
  congr 2
  apply List.map_congr_left
  intro member membership
  simp only [Function.comp_apply, plain member membership]
  rfl

theorem settled_text (text : Text) : Settled (.str (ofText text)) := by
  simp [Settled]

theorem settled_bool (value : Bool) : Settled (.bool value) := reloaded_bool value

theorem settled_obj {members : Dict} (plain : PlainKeys members)
    (distinct : (members.map Prod.fst).Nodup) (settled : ∀ member ∈ members, Settled member.2) :
    Settled (.obj members) := by
  have same : (members.map fun member => (member.1, reloaded member.2)) = members := by
    conv_rhs => rw [← List.map_id members]
    apply List.map_congr_left
    intro member membership
    have settledValue : reloaded member.2 = member.2 := settled member membership
    rw [settledValue]
    rfl
  rw [Settled, reloaded_obj plain, same, ofPairs_of_nodup distinct]

theorem settled_arr {elements : List Json} (settled : ∀ element ∈ elements, Settled element) :
    Settled (.arr elements) := by
  have same : elements.map reloaded = elements := by
    conv_rhs => rw [← List.map_id elements]
    apply List.map_congr_left
    exact settled
  rw [Settled, reloaded_arr, same]

/-- What is loaded from a file that was saved. -/
theorem parseConfig_saved {data : Dict} (plain : PlainKeys data) :
    parseConfig (encode (savedText data)) =
      .ok (update defaults (ofPairs (data.map fun member => (member.1, reloaded member.2)))) := by
  have read : Json.loads (savedText data) = some (reloaded (.obj data)) :=
    Json.loads_print (.indented 2) (.obj data)
  rw [parseConfig, run_encode]
  simp only [savedText, universalNewlines_of_no_carriage (Json.noCarriage_dumpsIndent 2 _)]
  rw [savedText] at read
  rw [read, reloaded_obj plain]
  rfl

/-- Its fields are those that were saved, read back. -/
theorem lookup_saved (key : PyStr) (data : Dict) :
    lookup key (update defaults
        (ofPairs (data.map fun member => (member.1, reloaded member.2)))) =
      ((lookup key data).map reloaded).or (lookup key defaults) := by
  rw [lookup_update, lookup_ofPairs, lookup_map]

theorem plainKeys_defaults : PlainKeys defaults := by
  unfold PlainKeys defaults
  simp only [List.forall_mem_cons, PyStr.joinPairs_py, true_and]
  exact fun member absent => absurd absent List.not_mem_nil

theorem PlainKeys.assign {members : Dict} (plain : PlainKeys members) {key : PyStr}
    (isPlain : PyStr.joinPairs key = key) (value : Json) :
    PlainKeys (assign key value members) := by
  intro member membership
  rcases mem_assign membership with rfl | old
  · exact isPlain
  · exact plain member old

theorem PlainKeys.update {members others : Dict} (plain : PlainKeys members)
    (otherPlain : PlainKeys others) : PlainKeys (update members others) := by
  intro member membership
  rcases mem_update membership with old | new
  · exact plain member old
  · exact otherPlain member new

/-! ## What is read is settled -/

/-- A value no object of which repeats a key. -/
def Built (value : Json) : Prop := value.buildDicts = value

theorem built_buildDicts (value : Json) : Built value.buildDicts := by
  unfold Built
  induction value with
  | arr elements inductionHypothesis =>
      rw [Json.buildDicts_arr, Json.buildDicts_arr, List.map_map]
      exact congrArg _ (List.map_congr_left inductionHypothesis)
  | obj members inductionHypothesis =>
      rw [Json.buildDicts_obj, Json.buildDicts_obj]
      have same : ∀ member ∈ ofPairs (members.map fun member => (member.1, member.2.buildDicts)),
          (member.1, member.2.buildDicts) = member := by
        intro member membership
        obtain ⟨source, isMember, rfl⟩ := List.mem_map.mp (mem_ofPairs membership)
        exact Prod.ext rfl (inductionHypothesis source isMember)
      rw [List.map_congr_left same, List.map_id', ofPairs_of_nodup (nodup_ofPairs _)]
  | _ => rfl

theorem built_arr {elements : List Json} (built : Built (.arr elements)) :
    ∀ element ∈ elements, Built element := by
  rw [Built, Json.buildDicts_arr, Json.arr.injEq] at built
  exact fun element membership =>
    List.map_inj_left.mp (built.trans (List.map_id _).symm) element membership

theorem built_obj {members : Dict} (built : Built (.obj members)) :
    (members.map Prod.fst).Nodup ∧ ∀ member ∈ members, Built member.2 := by
  rw [Built, Json.buildDicts_obj, Json.obj.injEq] at built
  have distinct : (members.map Prod.fst).Nodup := by
    rw [← built]
    exact nodup_ofPairs _
  have keys : (members.map fun member => (member.1, member.2.buildDicts)).map Prod.fst =
      members.map Prod.fst := by
    rw [List.map_map]
    rfl
  rw [ofPairs_of_nodup (keys ▸ distinct)] at built
  refine ⟨distinct, fun member membership => ?_⟩
  have same := List.map_inj_left.mp (built.trans (List.map_id _).symm) member membership
  exact congrArg Prod.snd same

/-- A value as the reader yields them. -/
structure Clean (value : Json) : Prop where
  joined : Json.Joined value
  built : Built value

theorem clean_of_loads {text : Text} {value : Json} (loaded : Json.loads text = some value) :
    Clean value := by
  refine ⟨Json.joined_of_loads loaded, ?_⟩
  obtain ⟨raw, _, rfl⟩ := Option.map_eq_some_iff.mp loaded
  exact built_buildDicts raw

theorem Clean.settled {value : Json} (clean : Clean value) : Settled value := by
  have joined : value.joinPairs = value := clean.joined
  rw [Settled, reloaded, joined]
  exact clean.built

theorem Clean.elements {elements : List Json} (clean : Clean (.arr elements)) :
    ∀ element ∈ elements, Clean element := fun element membership =>
  ⟨Json.joined_arr.mp clean.joined element membership, built_arr clean.built element membership⟩

theorem Clean.members {members : Dict} (clean : Clean (.obj members)) :
    PlainKeys members ∧ ∀ member ∈ members, Clean member.2 := by
  have joined := Json.joined_obj.mp clean.joined
  exact ⟨fun member membership => (joined member membership).1, fun member membership =>
    ⟨(joined member membership).2, (built_obj clean.built).2 member membership⟩⟩

theorem clean_str_singleton (point : CodePoint) : Clean (.str [point]) := ⟨rfl, rfl⟩

/-- Data whose keys are plain and whose values are clean. -/
def CleanData (data : Dict) : Prop := PlainKeys data ∧ ∀ member ∈ data, Clean member.2

theorem CleanData.update {data others : Dict} (clean : CleanData data)
    (otherClean : CleanData others) : CleanData (update data others) := by
  refine ⟨clean.1.update otherClean.1, fun member membership => ?_⟩
  rcases mem_update membership with old | isNew
  · exact clean.2 member old
  · exact otherClean.2 member isNew

theorem clean_py (literal : String) : Clean (.str (py literal)) :=
  ⟨by simp [Json.Joined, Json.joinPairs], rfl⟩

theorem cleanData_defaults : CleanData defaults := by
  refine ⟨plainKeys_defaults, ?_⟩
  have uids : Clean (.arr [.int 0]) := ⟨rfl, rfl⟩
  have lockout : Clean (.obj [(py "threshold", .int 3), (py "base_seconds", .int 30),
      (py "max_seconds", .int 3600)]) := by
    refine ⟨Json.joined_obj.mpr ?_, rfl⟩
    simp [Json.Joined, Json.joinPairs]
  unfold defaults
  simp only [List.forall_mem_cons]
  refine ⟨⟨rfl, rfl⟩, ⟨rfl, rfl⟩, ⟨rfl, rfl⟩, ⟨rfl, rfl⟩, ⟨rfl, rfl⟩, clean_py _, uids, clean_py _,
    ⟨rfl, rfl⟩, ⟨rfl, rfl⟩, ⟨rfl, rfl⟩, lockout, ⟨rfl, rfl⟩, ⟨rfl, rfl⟩, ⟨rfl, rfl⟩, ?_⟩
  simp

theorem CleanData.nil : CleanData [] := ⟨by simp [PlainKeys], by simp⟩

theorem CleanData.single {key : PyStr} {value : Json} (plain : key.joinPairs = key)
    (clean : Clean value) : CleanData [(key, value)] :=
  ⟨by simpa [PlainKeys] using plain, by simpa using clean⟩

theorem cleanData_updatePair {element : Json} (clean : Clean element) {pairs : Dict}
    (paired : updatePair element = .ok pairs) : CleanData pairs := by
  unfold updatePair at paired
  split at paired
  next key value =>
    cases paired
    have keyClean := clean.elements (.str key) (by simp)
    have plain : key.joinPairs = key := by
      simpa [Json.Joined, Json.joinPairs] using keyClean.joined
    exact .single plain (clean.elements value (by simp))
  · contradiction
  · contradiction
  · cases paired
    exact .nil
  next first second =>
    cases paired
    exact .single (PyStr.joinPairs_singleton first) (clean_str_singleton second)
  next first second =>
    cases paired
    have plain := clean.members.1
    refine .single (plain first (by simp)) ⟨?_, rfl⟩
    simpa [Json.Joined, Json.joinPairs] using plain second (by simp)
  all_goals contradiction

theorem CleanData.append {first second : Dict} (clean : CleanData first)
    (rest : CleanData second) : CleanData (first ++ second) := by
  refine ⟨fun member membership => ?_, fun member membership => ?_⟩
  · rcases List.mem_append.mp membership with left | right
    · exact clean.1 member left
    · exact rest.1 member right
  · rcases List.mem_append.mp membership with left | right
    · exact clean.2 member left
    · exact rest.2 member right

theorem cleanData_mapM_updatePair {elements : List Json}
    (clean : ∀ element ∈ elements, Clean element) {pairs : List Dict}
    (paired : elements.mapM updatePair = .ok pairs) : CleanData pairs.flatten := by
  induction elements generalizing pairs with
  | nil =>
      cases paired
      exact .nil
  | cons element elements inductionHypothesis =>
      rw [List.forall_mem_cons] at clean
      rw [List.mapM_cons] at paired
      cases first : updatePair element with
      | error exc => simp [first, bind, Except.bind] at paired
      | ok pair =>
          cases rest : elements.mapM updatePair with
          | error exc => simp [first, rest, bind, Except.bind] at paired
          | ok others =>
              simp only [first, rest, bind, Except.bind, pure, Except.pure,
                Except.ok.injEq] at paired
              subst paired
              rw [List.flatten_cons]
              exact (cleanData_updatePair clean.1 first).append (inductionHypothesis clean.2 rest)

theorem clean_of_iterate {value : Json} (clean : Clean value) {elements : List Json}
    (iterated : value.iterate = some elements) : ∀ element ∈ elements, Clean element := by
  cases value with
  | arr inner =>
      cases iterated
      exact clean.elements
  | str text =>
      cases iterated
      intro element membership
      obtain ⟨point, _, rfl⟩ := List.mem_map.mp membership
      exact clean_str_singleton point
  | obj members =>
      cases iterated
      intro element membership
      obtain ⟨member, isMember, rfl⟩ := List.mem_map.mp membership
      refine ⟨?_, rfl⟩
      simpa [Json.Joined, Json.joinPairs] using clean.members.1 member isMember
  | _ => contradiction

/-- What is loaded is clean. -/
theorem cleanData_of_parseConfig {content : Bytes} {data : Dict}
    (parsed : parseConfig content = .ok data) : CleanData data := by
  unfold parseConfig at parsed
  split at parsed
  next text _ =>
    split at parsed
    · contradiction
    next raw loaded =>
      have clean := clean_of_loads loaded
      unfold updateFrom at parsed
      split at parsed
      next members =>
        cases parsed
        exact cleanData_defaults.update clean.members
      · split at parsed
        · contradiction
        next elements iterated =>
          have parts := clean_of_iterate clean iterated
          cases paired : elements.mapM updatePair with
          | error exc => simp [paired, Except.map] at parsed
          | ok pairs =>
              simp only [paired, Except.map, Except.ok.injEq] at parsed
              subst parsed
              exact cleanData_defaults.update (cleanData_mapM_updatePair parts paired)
  · contradiction

end RemoteUnlock.Common
