import Mathlib.Data.List.Basic
import Mathlib.Data.List.Nodup
import Mathlib.Order.Defs.LinearOrder
import Mathlib.Order.Basic
import Mathlib.Order.Lattice

/-!
# Dictionaries as item lists

A dictionary is the list of its items in order of insertion.  The functions
below also make sense on lists that repeat a key, where the last value wins as
it does when a dictionary is built from such a list; `ofPairs` builds one.
`sortItems` is the order `sorted` gives, and two lists with strictly increasing
keys and the same lookups are equal (`eq_of_lookup_eq`).  A `PyDict` is a list
that repeats no key.
-/

namespace RemoteUnlock.Python.Items

universe u v

variable {Key : Type u} {Value : Type v}

section Lookup

variable [DecidableEq Key]

/-- `d.get(key)`. -/
def lookup (key : Key) : List (Key × Value) → Option Value
  | [] => none
  | item :: rest => (lookup key rest).or (if item.1 = key then some item.2 else none)

/-- `d.pop(key, None)` as far as the dictionary goes. -/
def remove (key : Key) (items : List (Key × Value)) : List (Key × Value) :=
  items.filter fun item => item.1 ≠ key

/-- `d[key] = value`. -/
def assign (key : Key) (value : Value) : List (Key × Value) → List (Key × Value)
  | [] => [(key, value)]
  | (other, old) :: rest =>
      if other = key then (key, value) :: remove key rest
      else (other, old) :: assign key value rest

/-- `d.update(pairs)`. -/
def update (items : List (Key × Value)) : List (Key × Value) → List (Key × Value)
  | [] => items
  | (key, value) :: rest => update (assign key value items) rest

/-- `dict(pairs)`. -/
def ofPairs (pairs : List (Key × Value)) : List (Key × Value) := update [] pairs

@[simp]
theorem lookup_nil (key : Key) : lookup key ([] : List (Key × Value)) = none := rfl

theorem lookup_cons (key : Key) (item : Key × Value) (rest : List (Key × Value)) :
    lookup key (item :: rest) =
      (lookup key rest).or (if item.1 = key then some item.2 else none) := rfl

theorem lookup_eq_none_iff (key : Key) (items : List (Key × Value)) :
    lookup key items = none ↔ ∀ item ∈ items, item.1 ≠ key := by
  induction items with
  | nil => simp
  | cons item rest inductionHypothesis =>
      simp only [lookup_cons, Option.or_eq_none_iff, inductionHypothesis,
        List.forall_mem_cons]
      split <;> simp_all

theorem mem_of_lookup {key : Key} {value : Value} {items : List (Key × Value)}
    (found : lookup key items = some value) : (key, value) ∈ items := by
  induction items with
  | nil => simp at found
  | cons item rest inductionHypothesis =>
      rw [lookup_cons, Option.or_eq_some_iff] at found
      rcases found with inRest | ⟨_, atHead⟩
      · exact List.mem_cons_of_mem _ (inductionHypothesis inRest)
      · split at atHead
        next same =>
          cases atHead
          exact List.mem_cons.mpr (.inl (by rw [← same]))
        next => simp at atHead

theorem lookup_of_mem {key : Key} {value : Value} {items : List (Key × Value)}
    (distinct : (items.map Prod.fst).Nodup) (membership : (key, value) ∈ items) :
    lookup key items = some value := by
  induction items with
  | nil => simp at membership
  | cons item rest inductionHypothesis =>
      rw [List.map_cons, List.nodup_cons] at distinct
      rcases List.mem_cons.mp membership with here | inRest
      · have absent : lookup key rest = none := by
          rw [lookup_eq_none_iff]
          intro other otherMember same
          apply distinct.1
          rw [← here]
          exact List.mem_map.mpr ⟨other, otherMember, same⟩
        rw [← here, lookup_cons, absent]
        simp
      · rw [lookup_cons, inductionHypothesis distinct.2 inRest]
        rfl

theorem lookup_remove (key other : Key) (items : List (Key × Value)) :
    lookup other (remove key items) = if other = key then none else lookup other items := by
  unfold remove
  induction items with
  | nil => simp
  | cons item rest inductionHypothesis =>
      simp only [List.filter_cons, decide_not, Bool.not_eq_true', decide_eq_false_iff_not]
        at inductionHypothesis ⊢
      by_cases dropped : item.1 = key
      · rw [if_neg (not_not_intro dropped), inductionHypothesis, lookup_cons]
        by_cases same : other = key
        · simp [same]
        · have different : item.1 ≠ other := by
            rw [dropped]
            exact Ne.symm same
          simp [same, different]
      · rw [if_pos dropped, lookup_cons, lookup_cons, inductionHypothesis]
        by_cases same : other = key
        · subst same
          simp [dropped]
        · simp [same]

@[simp]
theorem lookup_assign_self (key : Key) (value : Value) (items : List (Key × Value)) :
    lookup key (assign key value items) = some value := by
  induction items with
  | nil => simp [assign, lookup_cons]
  | cons item rest inductionHypothesis =>
      unfold assign
      split
      · rw [lookup_cons, lookup_remove]
        simp
      · rw [lookup_cons, inductionHypothesis]
        rfl

theorem lookup_assign_of_ne {key other : Key} (different : other ≠ key) (value : Value)
    (items : List (Key × Value)) :
    lookup other (assign key value items) = lookup other items := by
  induction items with
  | nil => simp [assign, lookup_cons, Ne.symm different]
  | cons item rest inductionHypothesis =>
      unfold assign
      split
      next same =>
        rw [lookup_cons, lookup_cons, lookup_remove, same]
        simp [different, Ne.symm different]
      next => rw [lookup_cons, lookup_cons, inductionHypothesis]

theorem lookup_assign (key other : Key) (value : Value) (items : List (Key × Value)) :
    lookup other (assign key value items) =
      if other = key then some value else lookup other items := by
  split
  next same => rw [same, lookup_assign_self]
  next different => exact lookup_assign_of_ne different value items

theorem lookup_update (key : Key) (items pairs : List (Key × Value)) :
    lookup key (update items pairs) = (lookup key pairs).or (lookup key items) := by
  induction pairs generalizing items with
  | nil => simp [update]
  | cons pair rest inductionHypothesis =>
      rw [update, inductionHypothesis, lookup_assign, lookup_cons, Option.or_assoc]
      congr 1
      by_cases same : key = pair.1
      · simp [same]
      · simp [same, Ne.symm same]

/-- Building a dictionary changes no lookup. -/
@[simp]
theorem lookup_ofPairs (key : Key) (pairs : List (Key × Value)) :
    lookup key (ofPairs pairs) = lookup key pairs := by
  simp [ofPairs, lookup_update]

theorem mem_assign {key : Key} {value : Value} {items : List (Key × Value)}
    {item : Key × Value} (membership : item ∈ assign key value items) :
    item = (key, value) ∨ item ∈ items := by
  induction items with
  | nil => simpa [assign] using membership
  | cons head rest inductionHypothesis =>
      unfold assign at membership
      split at membership
      · rcases List.mem_cons.mp membership with here | inRest
        · exact .inl here
        · exact .inr (List.mem_cons_of_mem _ (List.mem_filter.mp inRest).1)
      · rcases List.mem_cons.mp membership with here | inRest
        · exact .inr (by rw [here]; exact List.mem_cons_self)
        · rcases inductionHypothesis inRest with new | old
          · exact .inl new
          · exact .inr (List.mem_cons_of_mem _ old)

theorem length_assign_le (key : Key) (value : Value) (items : List (Key × Value)) :
    (assign key value items).length ≤ items.length + 1 := by
  induction items with
  | nil => simp [assign]
  | cons head rest inductionHypothesis =>
      unfold assign
      split
      · rw [List.length_cons, List.length_cons]
        have shorter : (remove key rest).length ≤ rest.length := List.length_filter_le _ _
        omega
      · rw [List.length_cons, List.length_cons]
        exact Nat.succ_le_succ inductionHypothesis

theorem mem_update {items pairs : List (Key × Value)} {item : Key × Value}
    (membership : item ∈ update items pairs) : item ∈ items ∨ item ∈ pairs := by
  induction pairs generalizing items with
  | nil => exact .inl membership
  | cons pair rest inductionHypothesis =>
      rcases inductionHypothesis membership with assigned | inRest
      · rcases mem_assign assigned with new | old
        · exact .inr (by rw [new]; exact List.mem_cons_self)
        · exact .inl old
      · exact .inr (List.mem_cons_of_mem _ inRest)

theorem mem_ofPairs {pairs : List (Key × Value)} {item : Key × Value}
    (membership : item ∈ ofPairs pairs) : item ∈ pairs := by
  rcases mem_update membership with inNil | inPairs
  · simp at inNil
  · exact inPairs

theorem assign_of_absent {key : Key} (value : Value) {items : List (Key × Value)}
    (absent : ∀ item ∈ items, item.1 ≠ key) :
    assign key value items = items ++ [(key, value)] := by
  induction items with
  | nil => rfl
  | cons head rest inductionHypothesis =>
      rw [List.forall_mem_cons] at absent
      rw [assign, if_neg absent.1, inductionHypothesis absent.2, List.cons_append]

theorem update_of_nodup {items pairs : List (Key × Value)}
    (distinct : ((items ++ pairs).map Prod.fst).Nodup) :
    update items pairs = items ++ pairs := by
  induction pairs generalizing items with
  | nil => simp [update]
  | cons pair rest inductionHypothesis =>
      have absent : ∀ item ∈ items, item.1 ≠ pair.1 := by
        intro item membership same
        rw [List.map_append, List.map_cons] at distinct
        exact (List.nodup_append.mp distinct).2.2 item.1
          (List.mem_map_of_mem membership) pair.1 List.mem_cons_self same
      rw [update, assign_of_absent _ absent, inductionHypothesis]
      · simp
      · simpa using distinct

/-- A list without repeated keys already is the dictionary it builds. -/
theorem ofPairs_of_nodup {pairs : List (Key × Value)}
    (distinct : (pairs.map Prod.fst).Nodup) : ofPairs pairs = pairs := by
  simpa [ofPairs] using @update_of_nodup _ _ _ [] pairs (by simpa using distinct)

theorem nodup_remove (key : Key) {items : List (Key × Value)}
    (distinct : (items.map Prod.fst).Nodup) :
    ((remove key items).map Prod.fst).Nodup :=
  (List.filter_sublist.map Prod.fst).nodup distinct

theorem nodup_assign (key : Key) (value : Value) {items : List (Key × Value)}
    (distinct : (items.map Prod.fst).Nodup) :
    ((assign key value items).map Prod.fst).Nodup := by
  induction items with
  | nil => simp [assign]
  | cons head rest inductionHypothesis =>
      rw [List.map_cons, List.nodup_cons] at distinct
      unfold assign
      split
      · rw [List.map_cons, List.nodup_cons]
        refine ⟨?_, nodup_remove key distinct.2⟩
        intro inKeys
        rcases List.mem_map.mp inKeys with ⟨item, membership, same⟩
        simp [remove, same] at membership
      next different =>
        rw [List.map_cons, List.nodup_cons]
        refine ⟨?_, inductionHypothesis distinct.2⟩
        intro inKeys
        rcases List.mem_map.mp inKeys with ⟨item, membership, same⟩
        rcases mem_assign membership with new | old
        · rw [new] at same
          exact different same.symm
        · exact distinct.1 (by rw [← same]; exact List.mem_map_of_mem old)

theorem nodup_update {items : List (Key × Value)} (distinct : (items.map Prod.fst).Nodup)
    (pairs : List (Key × Value)) : ((update items pairs).map Prod.fst).Nodup := by
  induction pairs generalizing items with
  | nil => exact distinct
  | cons pair pairs inductionHypothesis =>
      exact inductionHypothesis (nodup_assign pair.1 pair.2 distinct)

theorem nodup_ofPairs (pairs : List (Key × Value)) : ((ofPairs pairs).map Prod.fst).Nodup := by
  apply nodup_update
  exact List.nodup_nil

theorem lookup_filter {keep : Key × Value → Bool} {items : List (Key × Value)}
    (distinct : (items.map Prod.fst).Nodup) (key : Key) (value : Value) :
    lookup key (items.filter keep) = some value ↔
      lookup key items = some value ∧ keep (key, value) = true := by
  have keptDistinct : ((items.filter keep).map Prod.fst).Nodup :=
    (List.filter_sublist.map Prod.fst).nodup distinct
  constructor
  · intro found
    have membership := List.mem_filter.mp (mem_of_lookup found)
    exact ⟨lookup_of_mem distinct membership.1, membership.2⟩
  · rintro ⟨found, kept⟩
    exact lookup_of_mem keptDistinct (List.mem_filter.mpr ⟨mem_of_lookup found, kept⟩)

/-- A dictionary: its items, none of whose keys stands twice. -/
structure PyDict (Key : Type u) (Value : Type v) where
  items : List (Key × Value)
  distinct : (items.map Prod.fst).Nodup

namespace PyDict

def empty : PyDict Key Value := ⟨[], List.nodup_nil⟩

/-- `d.get(key)` -/
def get (dict : PyDict Key Value) (key : Key) : Option Value := lookup key dict.items

/-- `d[key] = value` -/
def set (dict : PyDict Key Value) (key : Key) (value : Value) : PyDict Key Value :=
  ⟨assign key value dict.items, nodup_assign key value dict.distinct⟩

/-- `d.pop(key, None)` as far as the dictionary goes. -/
def pop (dict : PyDict Key Value) (key : Key) : PyDict Key Value :=
  ⟨remove key dict.items, nodup_remove key dict.distinct⟩

/-- `{k: v for k, v in d.items() if keep(v)}` -/
def filter (dict : PyDict Key Value) (keep : Value → Bool) : PyDict Key Value :=
  ⟨dict.items.filter fun item => keep item.2,
    (List.filter_sublist.map Prod.fst).nodup dict.distinct⟩

@[simp]
theorem get_empty (key : Key) : (empty : PyDict Key Value).get key = none := rfl

@[simp]
theorem get_set_self (dict : PyDict Key Value) (key : Key) (value : Value) :
    (dict.set key value).get key = some value := lookup_assign_self key value dict.items

theorem get_set (dict : PyDict Key Value) (key other : Key) (value : Value) :
    (dict.set key value).get other = if other = key then some value else dict.get other :=
  lookup_assign key other value dict.items

theorem get_pop (dict : PyDict Key Value) (key other : Key) :
    (dict.pop key).get other = if other = key then none else dict.get other :=
  lookup_remove key other dict.items

theorem get_filter (dict : PyDict Key Value) (keep : Value → Bool) (key : Key) :
    (dict.filter keep).get key = (dict.get key).filter keep := by
  apply Option.ext
  intro value
  rw [Option.filter_eq_some_iff]
  exact lookup_filter dict.distinct key value

/-- A dictionary loses items only when it is filtered. -/
theorem get_of_get_filter {dict : PyDict Key Value} {keep : Value → Bool} {key : Key}
    {value : Value} (found : (dict.filter keep).get key = some value) :
    dict.get key = some value := by
  rw [get_filter, Option.filter_eq_some_iff] at found
  exact found.1

end PyDict

end Lookup

section Sorted

variable [LinearOrder Key] [DecidableEq Key]

/-- Insert into a list sorted by key, replacing the value of a key that is there. -/
def insertSorted (key : Key) (value : Value) : List (Key × Value) → List (Key × Value)
  | [] => [(key, value)]
  | (other, old) :: rest =>
      if key < other then (key, value) :: (other, old) :: rest
      else if other = key then (key, value) :: rest
      else (other, old) :: insertSorted key value rest

def insertAll (sorted : List (Key × Value)) : List (Key × Value) → List (Key × Value)
  | [] => sorted
  | (key, value) :: rest => insertAll (insertSorted key value sorted) rest

/-- The items of a dictionary in increasing order of their keys. -/
def sortItems (items : List (Key × Value)) : List (Key × Value) := insertAll [] items

/-- Strictly increasing keys. -/
def Increasing (items : List (Key × Value)) : Prop :=
  (items.map Prod.fst).Pairwise (· < ·)

instance (items : List (Key × Value)) : Decidable (Increasing items) :=
  inferInstanceAs (Decidable (List.Pairwise _ _))

omit [DecidableEq Key] in
@[simp]
theorem increasing_nil : Increasing ([] : List (Key × Value)) := List.Pairwise.nil

omit [DecidableEq Key] in
theorem increasing_cons (item : Key × Value) (rest : List (Key × Value)) :
    Increasing (item :: rest) ↔
      (∀ other ∈ rest, item.1 < other.1) ∧ Increasing rest := by
  simp [Increasing]

omit [DecidableEq Key] in
theorem Increasing.nodup {items : List (Key × Value)} (increasing : Increasing items) :
    (items.map Prod.fst).Nodup :=
  List.Pairwise.imp (fun {_ _} less => ne_of_lt less) increasing

theorem mem_insertSorted {key : Key} {value : Value} {items : List (Key × Value)}
    {item : Key × Value} (membership : item ∈ insertSorted key value items) :
    item = (key, value) ∨ item ∈ items := by
  induction items with
  | nil => simpa [insertSorted] using membership
  | cons head rest inductionHypothesis =>
      unfold insertSorted at membership
      split at membership
      · exact List.mem_cons.mp membership
      · split at membership
        · rcases List.mem_cons.mp membership with here | inRest
          · exact .inl here
          · exact .inr (List.mem_cons_of_mem _ inRest)
        · rcases List.mem_cons.mp membership with here | inRest
          · exact .inr (by rw [here]; exact List.mem_cons_self)
          · rcases inductionHypothesis inRest with new | old
            · exact .inl new
            · exact .inr (List.mem_cons_of_mem _ old)

theorem increasing_insertSorted (key : Key) (value : Value) {items : List (Key × Value)}
    (increasing : Increasing items) : Increasing (insertSorted key value items) := by
  induction items with
  | nil => simp [insertSorted, Increasing]
  | cons head rest inductionHypothesis =>
      rw [increasing_cons] at increasing
      unfold insertSorted
      split
      next before =>
        rw [increasing_cons]
        refine ⟨?_, (increasing_cons head rest).mpr increasing⟩
        rw [List.forall_mem_cons]
        exact ⟨before, fun other membership => before.trans (increasing.1 other membership)⟩
      next notBefore =>
        split
        next same =>
          rw [increasing_cons]
          exact ⟨fun other membership => same ▸ increasing.1 other membership,
            increasing.2⟩
        next different =>
          have after : head.1 < key :=
            lt_of_le_of_ne (le_of_not_gt notBefore) different
          rw [increasing_cons]
          refine ⟨?_, inductionHypothesis increasing.2⟩
          intro other membership
          rcases mem_insertSorted membership with new | old
          · rw [new]
            exact after
          · exact increasing.1 other old

theorem lookup_insertSorted (key other : Key) (value : Value) {items : List (Key × Value)}
    (increasing : Increasing items) :
    lookup other (insertSorted key value items) =
      if other = key then some value else lookup other items := by
  induction items with
  | nil =>
      simp only [insertSorted, lookup_cons, lookup_nil, Option.none_or]
      simp only [eq_comm]
  | cons head rest inductionHypothesis =>
      have headTail := (increasing_cons head rest).mp increasing
      unfold insertSorted
      split
      next before =>
        rw [lookup_cons]
        by_cases same : other = key
        · have absent : lookup other (head :: rest) = none := by
            rw [lookup_eq_none_iff, List.forall_mem_cons, same]
            exact ⟨ne_of_gt before, fun item membership =>
              ne_of_gt (before.trans (headTail.1 item membership))⟩
          rw [absent, if_pos same.symm, if_pos same]
          rfl
        · rw [if_neg (Ne.symm same), if_neg same, Option.or_none]
      next =>
        split
        next here =>
          rw [lookup_cons, lookup_cons, here]
          by_cases same : other = key
          · have absent : lookup other rest = none := by
              rw [lookup_eq_none_iff, same, ← here]
              exact fun item membership => ne_of_gt (headTail.1 item membership)
            simp [same, same ▸ absent]
          · simp [same, Ne.symm same]
        next different =>
          rw [lookup_cons, lookup_cons, inductionHypothesis headTail.2]
          by_cases same : other = key
          · simp [same]
          · simp [same]

theorem insertAll_spec {sorted : List (Key × Value)} (increasing : Increasing sorted)
    (items : List (Key × Value)) :
    Increasing (insertAll sorted items) ∧
      ∀ key, lookup key (insertAll sorted items) =
        (lookup key items).or (lookup key sorted) := by
  induction items generalizing sorted with
  | nil => exact ⟨increasing, fun key => by simp [insertAll]⟩
  | cons item rest inductionHypothesis =>
      have inserted := increasing_insertSorted item.1 item.2 increasing
      rcases inductionHypothesis inserted with ⟨restIncreasing, restLookup⟩
      refine ⟨restIncreasing, fun key => ?_⟩
      rw [insertAll, restLookup, lookup_insertSorted _ _ _ increasing, lookup_cons,
        Option.or_assoc]
      congr 1
      by_cases same : key = item.1
      · simp [same]
      · simp [same, Ne.symm same]

theorem increasing_sortItems (items : List (Key × Value)) : Increasing (sortItems items) :=
  (insertAll_spec increasing_nil items).1

@[simp]
theorem lookup_sortItems (key : Key) (items : List (Key × Value)) :
    lookup key (sortItems items) = lookup key items := by
  rw [sortItems, (insertAll_spec increasing_nil items).2, lookup_nil, Option.or_none]

theorem mem_insertAll {sorted items : List (Key × Value)} {item : Key × Value}
    (membership : item ∈ insertAll sorted items) : item ∈ sorted ∨ item ∈ items := by
  induction items generalizing sorted with
  | nil => exact .inl membership
  | cons head rest inductionHypothesis =>
      rcases inductionHypothesis membership with inserted | inRest
      · rcases mem_insertSorted inserted with new | old
        · exact .inr (by rw [new]; exact List.mem_cons_self)
        · exact .inl old
      · exact .inr (List.mem_cons_of_mem _ inRest)

theorem mem_sortItems {items : List (Key × Value)} {item : Key × Value}
    (membership : item ∈ sortItems items) : item ∈ items := by
  rcases mem_insertAll membership with inNil | inItems
  · simp at inNil
  · exact inItems

/-- Strictly increasing lists with the same lookups are equal. -/
theorem eq_of_lookup_eq {first second : List (Key × Value)}
    (firstIncreasing : Increasing first) (secondIncreasing : Increasing second)
    (agree : ∀ key, lookup key first = lookup key second) : first = second := by
  have sameItems : ∀ item, item ∈ first ↔ item ∈ second := by
    intro item
    constructor
    · intro membership
      have found := lookup_of_mem firstIncreasing.nodup membership
      rw [agree] at found
      exact mem_of_lookup found
    · intro membership
      have found := lookup_of_mem secondIncreasing.nodup membership
      rw [← agree] at found
      exact mem_of_lookup found
  have firstPairwise : first.Pairwise fun left right => left.1 < right.1 :=
    List.pairwise_map.mp firstIncreasing
  have secondPairwise : second.Pairwise fun left right => left.1 < right.1 :=
    List.pairwise_map.mp secondIncreasing
  have permutation : first.Perm second := by
    apply (List.perm_ext_iff_of_nodup _ _).mpr sameItems
    · exact List.Nodup.of_map Prod.fst firstIncreasing.nodup
    · exact List.Nodup.of_map Prod.fst secondIncreasing.nodup
  apply permutation.eq_of_pairwise _ firstPairwise secondPairwise
  intro left right _ _ leftLess rightLess
  exact absurd leftLess (not_lt_of_gt rightLess)

theorem sortItems_congr {first second : List (Key × Value)}
    (agree : ∀ key, lookup key first = lookup key second) :
    sortItems first = sortItems second :=
  eq_of_lookup_eq (increasing_sortItems first) (increasing_sortItems second)
    (fun key => by rw [lookup_sortItems, lookup_sortItems, agree])

theorem sortItems_of_increasing {items : List (Key × Value)}
    (increasing : Increasing items) : sortItems items = items :=
  eq_of_lookup_eq (increasing_sortItems items) increasing
    (fun key => lookup_sortItems key items)

@[simp]
theorem sortItems_ofPairs (pairs : List (Key × Value)) :
    sortItems (ofPairs pairs) = sortItems pairs :=
  sortItems_congr fun key => lookup_ofPairs key pairs

end Sorted

section Map

variable {Other : Type*} [DecidableEq Key]

theorem lookup_map (transform : Value → Other) (key : Key) (items : List (Key × Value)) :
    lookup key (items.map fun item => (item.1, transform item.2)) =
      (lookup key items).map transform := by
  induction items with
  | nil => rfl
  | cons item rest inductionHypothesis =>
      rw [List.map_cons, lookup_cons, inductionHypothesis, lookup_cons]
      cases lookup key rest with
      | none => simp only [Option.map_none, Option.none_or]; split <;> rfl
      | some value => rfl

end Map

end RemoteUnlock.Python.Items
