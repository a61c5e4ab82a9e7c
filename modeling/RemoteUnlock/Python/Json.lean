import RemoteUnlock.Python.FloatText
import RemoteUnlock.Python.Items

/-!
# JSON values

The values the JSON reader yields and the printer takes.  An object holds its
items in order of insertion; `buildDicts` turns the pair lists of a parsed text
into dictionaries, `sortKeys` orders every object by key, and `joinPairs` joins
the surrogate pairs of every string, keys included.  `sortKeys` is also the
equality of values: two dictionaries are equal when they are sorted alike.
-/

namespace RemoteUnlock.Python

open Items

inductive Json where
  | null
  | bool (value : Bool)
  | int (value : ℤ)
  | float (value : PyFloat)
  | str (value : PyStr)
  | arr (elements : List Json)
  | obj (members : List (PyStr × Json))

namespace Json

/-- Induction with a hypothesis for every element and every member. -/
@[induction_eliminator]
theorem induct {motive : Json → Prop}
    (null : motive .null) (bool : ∀ value, motive (.bool value))
    (int : ∀ value, motive (.int value)) (float : ∀ value, motive (.float value))
    (str : ∀ value, motive (.str value))
    (arr : ∀ elements, (∀ element ∈ elements, motive element) → motive (.arr elements))
    (obj : ∀ members, (∀ member ∈ members, motive member.2) → motive (.obj members))
    (value : Json) : motive value := by
  refine Json.rec (motive_1 := motive)
    (motive_2 := fun elements => ∀ element ∈ elements, motive element)
    (motive_3 := fun members => ∀ member ∈ members, motive member.2)
    (motive_4 := fun member => motive member.2)
    null bool int float str arr obj ?_ ?_ ?_ ?_ ?_ value
  · simp
  · intro head tail headHolds tailHolds
    exact List.forall_mem_cons.mpr ⟨headHolds, tailHolds⟩
  · simp
  · intro head tail headHolds tailHolds
    exact List.forall_mem_cons.mpr ⟨headHolds, tailHolds⟩
  · exact fun _ _ holds => holds

mutual

def beq : Json → Json → Bool
  | .null, .null => true
  | .bool first, .bool second => first == second
  | .int first, .int second => first == second
  | .float first, .float second => decide (first = second)
  | .str first, .str second => decide (first = second)
  | .arr first, .arr second => beqElements first second
  | .obj first, .obj second => beqMembers first second
  | _, _ => false

def beqElements : List Json → List Json → Bool
  | [], [] => true
  | first :: firsts, second :: seconds => beq first second && beqElements firsts seconds
  | _, _ => false

def beqMembers : List (PyStr × Json) → List (PyStr × Json) → Bool
  | [], [] => true
  | (key, first) :: firsts, (other, second) :: seconds =>
      decide (key = other) && beq first second && beqMembers firsts seconds
  | _, _ => false

end

theorem beqElements_iff {firsts : List Json}
    (holds : ∀ first ∈ firsts, ∀ second, beq first second = true ↔ first = second)
    (seconds : List Json) : beqElements firsts seconds = true ↔ firsts = seconds := by
  induction firsts generalizing seconds with
  | nil => cases seconds <;> simp [beqElements]
  | cons first firsts inductionHypothesis =>
      rw [List.forall_mem_cons] at holds
      cases seconds with
      | nil => simp [beqElements]
      | cons second seconds =>
          simp [beqElements, holds.1 second, inductionHypothesis holds.2 seconds]

theorem beqMembers_iff {firsts : List (PyStr × Json)}
    (holds : ∀ first ∈ firsts, ∀ second, beq first.2 second = true ↔ first.2 = second)
    (seconds : List (PyStr × Json)) :
    beqMembers firsts seconds = true ↔ firsts = seconds := by
  induction firsts generalizing seconds with
  | nil => cases seconds <;> simp [beqMembers]
  | cons first firsts inductionHypothesis =>
      rw [List.forall_mem_cons] at holds
      rcases first with ⟨key, value⟩
      cases seconds with
      | nil => simp [beqMembers]
      | cons second seconds =>
          rcases second with ⟨other, second⟩
          simp [beqMembers, holds.1 second, inductionHypothesis holds.2 seconds]

theorem beq_iff (first second : Json) : beq first second = true ↔ first = second := by
  induction first generalizing second with
  | null => cases second <;> simp [beq]
  | bool value => cases second <;> simp [beq]
  | int value => cases second <;> simp [beq]
  | float value => cases second <;> simp [beq]
  | str value => cases second <;> simp [beq]
  | arr elements inductionHypothesis =>
      cases second <;> simp [beq, beqElements_iff inductionHypothesis]
  | obj members inductionHypothesis =>
      cases second <;> simp [beq, beqMembers_iff inductionHypothesis]

instance : DecidableEq Json := fun first second =>
  decidable_of_iff _ (beq_iff first second)

/-- The number a value is, if it is a finite one; the truth values are 0 and 1. -/
def number : Json → Option ℚ
  | .bool value => some (if value then 1 else 0)
  | .int value => some value
  | .float (.finite negative magnitude) =>
      some (if negative then -magnitude.value else magnitude.value)
  | _ => none

/-- `bool(value)` -/
def truthy : Json → Bool
  | .null => false
  | .bool value => value
  | .int value => value ≠ 0
  | .float (.finite _ magnitude) => magnitude.mantissa ≠ 0
  | .float _ => true
  | .str text => text ≠ []
  | .arr elements => !elements.isEmpty
  | .obj members => !members.isEmpty

/-- `number <= value`, with a number on the left; `none` where the types do not compare. -/
def atMost (number : ℚ) : Json → Option Bool
  | .float .nan => some false
  | .float (.infinity negative) => some (!negative)
  | value => value.number.map fun limit => number ≤ limit

/-- `number > value` -/
def exceeds (number : ℚ) : Json → Option Bool
  | .float .nan => some false
  | .float (.infinity negative) => some negative
  | value => value.number.map fun limit => limit < number

/-- `number >= value` -/
def atLeast (number : ℚ) : Json → Option Bool
  | .float .nan => some false
  | .float (.infinity negative) => some negative
  | value => value.number.map fun limit => limit ≤ number

/-- `number in value` -/
def containsNumber (number : ℚ) : Json → Option Bool
  | .arr elements => some (elements.any fun element => decide (element.number = some number))
  | .obj _ => some false
  | _ => none

mutual

/-- Equality of two elements of containers.  The reader yields one object for every NaN, and
an element is equal to itself. -/
def sameElement : Json → Json → Bool
  | .null, second => decide (second = .null)
  | .str first, second => decide (second = .str first)
  | .arr first, .arr second => sameElements first second
  | .arr _, _ => false
  | .obj first, .obj second => decide (first.length = second.length) && sameMembers first second
  | .obj _, _ => false
  | .float .nan, second => decide (second = .float .nan)
  | .float (.infinity negative), second => decide (second = .float (.infinity negative))
  | .float (.finite negative magnitude), second =>
      decide (number (.float (.finite negative magnitude)) = second.number)
  | .bool value, second => decide (number (.bool value) = second.number)
  | .int value, second => decide (number (.int value) = second.number)

def sameElements : List Json → List Json → Bool
  | [], [] => true
  | first :: firsts, second :: seconds => sameElement first second && sameElements firsts seconds
  | _, _ => false

def sameMembers : List (PyStr × Json) → List (PyStr × Json) → Bool
  | [], _ => true
  | (key, first) :: rest, second =>
      (match lookup key second with
        | some value => sameElement first value
        | none => false) && sameMembers rest second

end

/-- `first == second` -/
def pyEq (first second : Json) : Bool := decide (first ≠ .float .nan) && sameElement first second

/-- `for element in value` -/
def iterate : Json → Option (List Json)
  | .arr elements => some elements
  | .str text => some (text.map fun point => .str [point])
  | .obj members => some (members.map fun member => .str member.1)
  | _ => none

theorem exceeds_of_number {number limit : ℚ} {value : Json} (isNumber : value.number = some limit) :
    exceeds number value = some (decide (limit < number)) := by
  unfold exceeds
  split
  · simp [Json.number] at isNumber
  · simp [Json.number] at isNumber
  · simp [isNumber]

theorem atLeast_of_number {number limit : ℚ} {value : Json} (isNumber : value.number = some limit) :
    atLeast number value = some (decide (limit ≤ number)) := by
  unfold atLeast
  split
  · simp [Json.number] at isNumber
  · simp [Json.number] at isNumber
  · simp [isNumber]

/-! ## Transformations of whole values -/

mutual

/-- Sort the members of every object by key; of a repeated key the last value stays. -/
def sortKeys : Json → Json
  | .arr elements => .arr (sortKeysElements elements)
  | .obj members => .obj (sortItems (sortKeysMembers members))
  | value => value

def sortKeysElements : List Json → List Json
  | [] => []
  | element :: rest => sortKeys element :: sortKeysElements rest

def sortKeysMembers : List (PyStr × Json) → List (PyStr × Json)
  | [] => []
  | (key, value) :: rest => (key, sortKeys value) :: sortKeysMembers rest

end

mutual

/-- Join the surrogate pairs of every string and every key. -/
def joinPairs : Json → Json
  | .str text => .str text.joinPairs
  | .arr elements => .arr (joinPairsElements elements)
  | .obj members => .obj (joinPairsMembers members)
  | value => value

def joinPairsElements : List Json → List Json
  | [] => []
  | element :: rest => joinPairs element :: joinPairsElements rest

def joinPairsMembers : List (PyStr × Json) → List (PyStr × Json)
  | [] => []
  | (key, value) :: rest =>
      (PyStr.joinPairs key, joinPairs value) :: joinPairsMembers rest

end

mutual

/-- Build a dictionary from the pairs of every object. -/
def buildDicts : Json → Json
  | .arr elements => .arr (buildDictsElements elements)
  | .obj members => .obj (ofPairs (buildDictsMembers members))
  | value => value

def buildDictsElements : List Json → List Json
  | [] => []
  | element :: rest => buildDicts element :: buildDictsElements rest

def buildDictsMembers : List (PyStr × Json) → List (PyStr × Json)
  | [] => []
  | (key, value) :: rest => (key, buildDicts value) :: buildDictsMembers rest

end

mutual

/-- Every object's keys are strictly increasing. -/
def Sorted : Json → Prop
  | .arr elements => SortedElements elements
  | .obj members => Increasing members ∧ SortedMembers members
  | _ => True

def SortedElements : List Json → Prop
  | [] => True
  | element :: rest => Sorted element ∧ SortedElements rest

def SortedMembers : List (PyStr × Json) → Prop
  | [] => True
  | (_, value) :: rest => Sorted value ∧ SortedMembers rest

end

theorem sortKeysElements_eq_map (elements : List Json) :
    sortKeysElements elements = elements.map sortKeys := by
  induction elements with
  | nil => rfl
  | cons element rest inductionHypothesis => simp [sortKeysElements, inductionHypothesis]

theorem sortKeysMembers_eq_map (members : List (PyStr × Json)) :
    sortKeysMembers members = members.map fun member => (member.1, sortKeys member.2) := by
  induction members with
  | nil => rfl
  | cons member rest inductionHypothesis => simp [sortKeysMembers, inductionHypothesis]

theorem joinPairsElements_eq_map (elements : List Json) :
    joinPairsElements elements = elements.map joinPairs := by
  induction elements with
  | nil => rfl
  | cons element rest inductionHypothesis => simp [joinPairsElements, inductionHypothesis]

theorem joinPairsMembers_eq_map (members : List (PyStr × Json)) :
    joinPairsMembers members =
      members.map fun member => (PyStr.joinPairs member.1, joinPairs member.2) := by
  induction members with
  | nil => rfl
  | cons member rest inductionHypothesis => simp [joinPairsMembers, inductionHypothesis]

theorem buildDictsElements_eq_map (elements : List Json) :
    buildDictsElements elements = elements.map buildDicts := by
  induction elements with
  | nil => rfl
  | cons element rest inductionHypothesis =>
      simp [buildDictsElements, inductionHypothesis]

theorem buildDictsMembers_eq_map (members : List (PyStr × Json)) :
    buildDictsMembers members =
      members.map fun member => (member.1, buildDicts member.2) := by
  induction members with
  | nil => rfl
  | cons member rest inductionHypothesis => simp [buildDictsMembers, inductionHypothesis]

theorem sortedElements_iff (elements : List Json) :
    SortedElements elements ↔ ∀ element ∈ elements, Sorted element := by
  induction elements with
  | nil => simp [SortedElements]
  | cons element rest inductionHypothesis => simp [SortedElements, inductionHypothesis]

theorem sortedMembers_iff (members : List (PyStr × Json)) :
    SortedMembers members ↔ ∀ member ∈ members, Sorted member.2 := by
  induction members with
  | nil => simp [SortedMembers]
  | cons member rest inductionHypothesis => simp [SortedMembers, inductionHypothesis]

@[simp]
theorem sortKeys_obj (members : List (PyStr × Json)) :
    sortKeys (.obj members) =
      .obj (sortItems (members.map fun member => (member.1, sortKeys member.2))) := by
  rw [sortKeys, sortKeysMembers_eq_map]

@[simp]
theorem sortKeys_arr (elements : List Json) :
    sortKeys (.arr elements) = .arr (elements.map sortKeys) := by
  rw [sortKeys, sortKeysElements_eq_map]

@[simp]
theorem joinPairs_obj (members : List (PyStr × Json)) :
    joinPairs (.obj members) =
      .obj (members.map fun member => (PyStr.joinPairs member.1, joinPairs member.2)) := by
  rw [joinPairs, joinPairsMembers_eq_map]

@[simp]
theorem joinPairs_arr (elements : List Json) :
    joinPairs (.arr elements) = .arr (elements.map joinPairs) := by
  rw [joinPairs, joinPairsElements_eq_map]

@[simp]
theorem buildDicts_obj (members : List (PyStr × Json)) :
    buildDicts (.obj members) =
      .obj (ofPairs (members.map fun member => (member.1, buildDicts member.2))) := by
  rw [buildDicts, buildDictsMembers_eq_map]

@[simp]
theorem buildDicts_arr (elements : List Json) :
    buildDicts (.arr elements) = .arr (elements.map buildDicts) := by
  rw [buildDicts, buildDictsElements_eq_map]

@[simp]
theorem sorted_obj (members : List (PyStr × Json)) :
    Sorted (.obj members) ↔
      Increasing members ∧ ∀ member ∈ members, Sorted member.2 := by
  rw [Sorted, sortedMembers_iff]

@[simp]
theorem sorted_arr (elements : List Json) :
    Sorted (.arr elements) ↔ ∀ element ∈ elements, Sorted element := by
  rw [Sorted, sortedElements_iff]

/-! ## Sorting -/

theorem sorted_sortKeys (value : Json) : Sorted (sortKeys value) := by
  induction value with
  | arr elements inductionHypothesis =>
      rw [sortKeys_arr, sorted_arr]
      intro element membership
      rcases List.mem_map.mp membership with ⟨source, inElements, rfl⟩
      exact inductionHypothesis source inElements
  | obj members inductionHypothesis =>
      rw [sortKeys_obj, sorted_obj]
      refine ⟨increasing_sortItems _, ?_⟩
      intro member membership
      rcases List.mem_map.mp (mem_sortItems membership) with ⟨source, inMembers, rfl⟩
      exact inductionHypothesis source inMembers
  | _ => simp [sortKeys, Sorted]

theorem sortKeys_of_sorted {value : Json} (sorted : Sorted value) :
    sortKeys value = value := by
  induction value with
  | arr elements inductionHypothesis =>
      rw [sorted_arr] at sorted
      rw [sortKeys_arr, List.map_congr_left (g := id), List.map_id]
      exact fun element membership =>
        inductionHypothesis element membership (sorted element membership)
  | obj members inductionHypothesis =>
      rw [sorted_obj] at sorted
      rw [sortKeys_obj, List.map_congr_left (g := id), List.map_id,
        sortItems_of_increasing sorted.1]
      intro member membership
      rw [inductionHypothesis member membership (sorted.2 member membership)]
      rfl
  | _ => rfl

@[simp]
theorem sortKeys_sortKeys (value : Json) : sortKeys (sortKeys value) = sortKeys value :=
  sortKeys_of_sorted (sorted_sortKeys value)

/-- Lookups see through the sorting of the members' values. -/
theorem sortItems_map_congr {first second : List (PyStr × Json)}
    (agree : ∀ key, (lookup key first).map sortKeys = (lookup key second).map sortKeys) :
    sortItems (first.map fun member => (member.1, sortKeys member.2)) =
      sortItems (second.map fun member => (member.1, sortKeys member.2)) :=
  sortItems_congr fun key => by rw [lookup_map, lookup_map, agree]

/-- Building dictionaries keeps the value. -/
@[simp]
theorem sortKeys_buildDicts (value : Json) : sortKeys (buildDicts value) = sortKeys value := by
  induction value with
  | arr elements inductionHypothesis =>
      rw [buildDicts_arr, sortKeys_arr, sortKeys_arr, List.map_map]
      exact congrArg _ (List.map_congr_left inductionHypothesis)
  | obj members inductionHypothesis =>
      rw [buildDicts_obj, sortKeys_obj, sortKeys_obj]
      congr 1
      apply sortItems_map_congr
      intro key
      rw [lookup_ofPairs, lookup_map, Option.map_map]
      cases found : lookup key members with
      | none => rfl
      | some inner => exact congrArg some (inductionHypothesis _ (mem_of_lookup found))
  | _ => rfl

/-! ## Joining surrogate pairs -/

@[simp]
theorem joinPairs_joinPairs (value : Json) : joinPairs (joinPairs value) = joinPairs value := by
  induction value with
  | arr elements inductionHypothesis =>
      rw [joinPairs_arr, joinPairs_arr, List.map_map]
      exact congrArg _ (List.map_congr_left inductionHypothesis)
  | obj members inductionHypothesis =>
      rw [joinPairs_obj, joinPairs_obj, List.map_map]
      refine congrArg _ (List.map_congr_left fun member membership => ?_)
      simp [inductionHypothesis member membership]
  | str text => simp [joinPairs]
  | _ => rfl

/-- A value none of whose strings has a pair left to join. -/
def Joined (value : Json) : Prop := joinPairs value = value

theorem joined_arr {elements : List Json} :
    Joined (.arr elements) ↔ ∀ element ∈ elements, Joined element := by
  unfold Joined
  rw [joinPairs_arr, Json.arr.injEq]
  constructor
  · intro same element membership
    have pointwise := List.map_inj_left.mp (same.trans (List.map_id _).symm)
    exact pointwise element membership
  · intro pointwise
    rw [List.map_congr_left pointwise, List.map_id']

theorem joined_obj {members : List (PyStr × Json)} :
    Joined (.obj members) ↔
      ∀ member ∈ members, PyStr.joinPairs member.1 = member.1 ∧ Joined member.2 := by
  unfold Joined
  rw [joinPairs_obj, Json.obj.injEq]
  constructor
  · intro same member membership
    have pointwise := List.map_inj_left.mp (same.trans (List.map_id _).symm)
    exact Prod.mk.inj (pointwise member membership)
  · intro pointwise
    rw [List.map_congr_left (g := id), List.map_id]
    intro member membership
    rw [(pointwise member membership).1, (pointwise member membership).2]
    rfl

/-- Sorting introduces no new strings. -/
theorem Joined.sortKeys {value : Json} (joined : Joined value) : Joined value.sortKeys := by
  induction value with
  | arr elements inductionHypothesis =>
      rw [joined_arr] at joined
      rw [sortKeys_arr, joined_arr]
      intro element membership
      rcases List.mem_map.mp membership with ⟨source, inElements, rfl⟩
      exact inductionHypothesis source inElements (joined source inElements)
  | obj members inductionHypothesis =>
      rw [joined_obj] at joined
      rw [sortKeys_obj, joined_obj]
      intro member membership
      rcases List.mem_map.mp (mem_sortItems membership) with ⟨source, inMembers, rfl⟩
      exact ⟨(joined source inMembers).1,
        inductionHypothesis source inMembers (joined source inMembers).2⟩
  | _ => exact joined

theorem Joined.buildDicts {value : Json} (joined : Joined value) :
    Joined value.buildDicts := by
  induction value with
  | arr elements inductionHypothesis =>
      rw [joined_arr] at joined
      rw [buildDicts_arr, joined_arr]
      intro element membership
      rcases List.mem_map.mp membership with ⟨source, inElements, rfl⟩
      exact inductionHypothesis source inElements (joined source inElements)
  | obj members inductionHypothesis =>
      rw [joined_obj] at joined
      rw [buildDicts_obj, joined_obj]
      intro member membership
      rcases List.mem_map.mp (mem_ofPairs membership) with ⟨source, inMembers, rfl⟩
      exact ⟨(joined source inMembers).1,
        inductionHypothesis source inMembers (joined source inMembers).2⟩
  | _ => exact joined

end Json

end RemoteUnlock.Python
