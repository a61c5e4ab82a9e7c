import Mathlib.Data.List.Infix

/-!
# Linear patterns and the substitution of a word

A linear pattern is a sequence of pieces, each one symbol of a set or any number of
symbols of a set.  Substitution replaces a word between what two patterns accept.  It does
not depend on which place is chosen where there is only one (`substitute_of_unique`).
-/

namespace RemoteUnlock.Library

variable {Symbol : Type*}

inductive Piece (Symbol : Type*) where
  /-- One symbol of a set. -/
  | one (member : Symbol → Bool)
  /-- Any number of symbols of a set. -/
  | many (member : Symbol → Bool)

abbrev Pattern (Symbol : Type*) := List (Piece Symbol)

/-- Any number of symbols of a set, and then what comes next. -/
def manyThen (member : Symbol → Bool) (next : List Symbol → Bool) : List Symbol → Bool
  | [] => next []
  | symbol :: rest => next (symbol :: rest) || (member symbol && manyThen member next rest)

namespace Pattern

/-- The pattern accepts a whole text. -/
def accepts : Pattern Symbol → List Symbol → Bool
  | [] => List.isEmpty
  | .one member :: pattern => fun
      | [] => false
      | symbol :: rest => member symbol && accepts pattern rest
  | .many member :: pattern => manyThen member (accepts pattern)

/-- The pattern accepts a front part of the text. -/
def begins (pattern : Pattern Symbol) (text : List Symbol) : Bool :=
  text.inits.any pattern.accepts

/-- The pattern accepts a part of the text. -/
def occurs (pattern : Pattern Symbol) (text : List Symbol) : Bool :=
  text.tails.any pattern.begins

end Pattern

/-- The pattern of a word. -/
def literal [DecidableEq Symbol] (word : List Symbol) : Pattern Symbol :=
  word.map fun symbol => .one fun other => other = symbol

/-- The parts of a text before and behind a word, where the two patterns accept them. -/
def splitAround [DecidableEq Symbol] (before : Pattern Symbol) (word : List Symbol)
    (behind : Pattern Symbol) (text : List Symbol) : Option (List Symbol × List Symbol) :=
  (List.range (text.length + 1)).findSome? fun position =>
    let front := text.take position
    let back := (text.drop position).drop word.length
    if before.accepts front && word.isPrefixOf (text.drop position) && behind.accepts back
    then some (front, back) else none

/-- Put another word in the place of the word between the two patterns. -/
def substitute [DecidableEq Symbol] (before : Pattern Symbol) (word other : List Symbol)
    (behind : Pattern Symbol) (text : List Symbol) : List Symbol :=
  match splitAround before word behind text with
  | some (front, back) => front ++ other ++ back
  | none => text

/-! ## What patterns accept -/

theorem manyThen_iff {member : Symbol → Bool} {next : List Symbol → Bool} {text : List Symbol} :
    manyThen member next text = true ↔
      ∃ front back, text = front ++ back ∧ (∀ symbol ∈ front, member symbol = true) ∧
        next back = true := by
  induction text with
  | nil =>
      constructor
      · intro accepted
        exact ⟨[], [], rfl, by simp, accepted⟩
      · rintro ⟨front, back, parts, _, accepted⟩
        obtain ⟨rfl, rfl⟩ := List.append_eq_nil_iff.mp parts.symm
        exact accepted
  | cons symbol rest inductionHypothesis =>
      rw [manyThen, Bool.or_eq_true, Bool.and_eq_true, inductionHypothesis]
      constructor
      · rintro (accepted | ⟨isMember, front, back, parts, members, accepted⟩)
        · exact ⟨[], symbol :: rest, rfl, by simp, accepted⟩
        · refine ⟨symbol :: front, back, by rw [parts, List.cons_append], ?_, accepted⟩
          intro other membership
          rcases List.mem_cons.mp membership with rfl | inFront
          · exact isMember
          · exact members other inFront
      · rintro ⟨front, back, parts, members, accepted⟩
        cases front with
        | nil =>
            rw [List.nil_append] at parts
            exact .inl (parts ▸ accepted)
        | cons first others =>
            rw [List.cons_append, List.cons.injEq] at parts
            obtain ⟨rfl, rfl⟩ := parts
            exact .inr ⟨members symbol List.mem_cons_self, others, back, rfl,
              fun other membership => members other (List.mem_cons_of_mem _ membership), accepted⟩

theorem accepts_nil_iff {text : List Symbol} : Pattern.accepts [] text = true ↔ text = [] :=
  List.isEmpty_iff

theorem accepts_one_iff {member : Symbol → Bool} {pattern : Pattern Symbol} {text : List Symbol} :
    Pattern.accepts (.one member :: pattern) text = true ↔
      ∃ symbol rest, text = symbol :: rest ∧ member symbol = true ∧
        pattern.accepts rest = true := by
  cases text with
  | nil => simp [Pattern.accepts]
  | cons symbol rest => simp [Pattern.accepts]

theorem accepts_many_iff {member : Symbol → Bool} {pattern : Pattern Symbol}
    {text : List Symbol} :
    Pattern.accepts (.many member :: pattern) text = true ↔
      ∃ front back, text = front ++ back ∧ (∀ symbol ∈ front, member symbol = true) ∧
        pattern.accepts back = true := by
  rw [Pattern.accepts]
  exact manyThen_iff

theorem accepts_append_iff {first second : Pattern Symbol} {text : List Symbol} :
    (first ++ second).accepts text = true ↔
      ∃ front back, text = front ++ back ∧ first.accepts front = true ∧
        second.accepts back = true := by
  induction first generalizing text with
  | nil =>
      rw [List.nil_append]
      constructor
      · exact fun accepted => ⟨[], text, rfl, rfl, accepted⟩
      · rintro ⟨front, back, rfl, isEmpty, accepted⟩
        rw [accepts_nil_iff.mp isEmpty]
        exact accepted
  | cons piece first inductionHypothesis =>
      rw [List.cons_append]
      cases piece with
      | one member =>
          rw [accepts_one_iff]
          constructor
          · rintro ⟨symbol, rest, rfl, isMember, accepted⟩
            obtain ⟨front, back, rfl, left, right⟩ := inductionHypothesis.mp accepted
            exact ⟨symbol :: front, back, rfl,
              accepts_one_iff.mpr ⟨symbol, front, rfl, isMember, left⟩, right⟩
          · rintro ⟨front, back, rfl, left, right⟩
            obtain ⟨symbol, rest, rfl, isMember, left⟩ := accepts_one_iff.mp left
            exact ⟨symbol, rest ++ back, rfl, isMember,
              inductionHypothesis.mpr ⟨rest, back, rfl, left, right⟩⟩
      | many member =>
          rw [accepts_many_iff]
          constructor
          · rintro ⟨run, others, rfl, members, accepted⟩
            obtain ⟨front, back, rfl, left, right⟩ := inductionHypothesis.mp accepted
            exact ⟨run ++ front, back, (List.append_assoc _ _ _).symm,
              accepts_many_iff.mpr ⟨run, front, rfl, members, left⟩, right⟩
          · rintro ⟨front, back, rfl, left, right⟩
            obtain ⟨run, others, rfl, members, left⟩ := accepts_many_iff.mp left
            exact ⟨run, others ++ back, List.append_assoc _ _ _, members,
              inductionHypothesis.mpr ⟨others, back, rfl, left, right⟩⟩

theorem accepts_literal_iff [DecidableEq Symbol] {word text : List Symbol} :
    (literal word).accepts text = true ↔ text = word := by
  induction word generalizing text with
  | nil => exact accepts_nil_iff
  | cons symbol word inductionHypothesis =>
      rw [literal, List.map_cons, accepts_one_iff]
      constructor
      · rintro ⟨other, rest, rfl, same, accepted⟩
        rw [of_decide_eq_true same, inductionHypothesis.mp accepted]
      · rintro rfl
        exact ⟨symbol, word, rfl, decide_eq_true rfl, inductionHypothesis.mpr rfl⟩

theorem begins_iff {pattern : Pattern Symbol} {text : List Symbol} :
    pattern.begins text = true ↔
      ∃ front back, text = front ++ back ∧ pattern.accepts front = true := by
  rw [Pattern.begins, List.any_eq_true]
  constructor
  · rintro ⟨front, membership, accepted⟩
    obtain ⟨back, parts⟩ := (List.mem_inits _ _).mp membership
    exact ⟨front, back, parts.symm, accepted⟩
  · rintro ⟨front, back, parts, accepted⟩
    exact ⟨front, (List.mem_inits _ _).mpr ⟨back, parts.symm⟩, accepted⟩

/-! ## Substitution -/

/-- Two texts that begin with members of a set fall apart at their first other symbols. -/
theorem append_cons_unique (member : Symbol → Bool) {front others back rest : List Symbol}
    {symbol other : Symbol} (members : ∀ symbol ∈ front, member symbol = true)
    (otherMembers : ∀ symbol ∈ others, member symbol = true)
    (ends : member symbol = false) (otherEnds : member other = false)
    (same : front ++ symbol :: back = others ++ other :: rest) :
    front = others ∧ symbol :: back = other :: rest := by
  induction front generalizing others with
  | nil =>
      cases others with
      | nil => exact ⟨rfl, same⟩
      | cons first others =>
          rw [List.nil_append, List.cons_append, List.cons.injEq] at same
          rw [same.1, otherMembers first List.mem_cons_self] at ends
          contradiction
  | cons first front inductionHypothesis =>
      cases others with
      | nil =>
          rw [List.nil_append, List.cons_append, List.cons.injEq] at same
          rw [← same.1, members first List.mem_cons_self] at otherEnds
          contradiction
      | cons second others =>
          rw [List.cons_append, List.cons_append, List.cons.injEq] at same
          obtain ⟨rfl, same⟩ := same
          obtain ⟨rfl, rest⟩ := inductionHypothesis
            (fun symbol membership => members symbol (List.mem_cons_of_mem _ membership))
            (fun symbol membership => otherMembers symbol (List.mem_cons_of_mem _ membership)) same
          exact ⟨rfl, rest⟩

section Substitution

variable [DecidableEq Symbol] {before behind : Pattern Symbol} {word text : List Symbol}

theorem splitAround_eq_some {front back : List Symbol}
    (found : splitAround before word behind text = some (front, back)) :
    text = front ++ word ++ back ∧ before.accepts front = true ∧ behind.accepts back = true := by
  obtain ⟨position, _, isHere⟩ := List.exists_of_findSome?_eq_some found
  simp only [Option.ite_none_right_eq_some, Bool.and_eq_true, Option.some.injEq,
    Prod.mk.injEq] at isHere
  obtain ⟨⟨⟨accepted, isPrefix⟩, rest⟩, rfl, rfl⟩ := isHere
  refine ⟨?_, accepted, rest⟩
  obtain ⟨back, parts⟩ := List.isPrefixOf_iff_prefix.mp isPrefix
  rw [← parts, List.drop_left, List.append_assoc, parts, List.take_append_drop]

theorem splitAround_isSome_iff :
    (splitAround before word behind text).isSome = true ↔
      ∃ front back, text = front ++ word ++ back ∧ before.accepts front = true ∧
        behind.accepts back = true := by
  constructor
  · intro isSome
    obtain ⟨⟨front, back⟩, found⟩ := Option.isSome_iff_exists.mp isSome
    exact ⟨front, back, splitAround_eq_some found⟩
  · rintro ⟨front, back, rfl, accepted, rest⟩
    rw [splitAround, List.findSome?_isSome_iff]
    refine ⟨front.length, ?_, ?_⟩
    · rw [List.mem_range, List.append_assoc, List.length_append]
      omega
    · simp [accepted, rest, List.append_assoc]

/-- Where there is one place to substitute at, that is where it happens. -/
theorem substitute_of_unique {front back : List Symbol} (other : List Symbol)
    (accepted : before.accepts front = true) (rest : behind.accepts back = true)
    (unique : ∀ first second, front ++ word ++ back = first ++ word ++ second →
      before.accepts first = true → first = front ∧ second = back) :
    substitute before word other behind (front ++ word ++ back) = front ++ other ++ back := by
  have isSome : (splitAround before word behind (front ++ word ++ back)).isSome = true :=
    splitAround_isSome_iff.mpr ⟨front, back, rfl, accepted, rest⟩
  obtain ⟨⟨first, second⟩, found⟩ := Option.isSome_iff_exists.mp isSome
  obtain ⟨parts, left, _⟩ := splitAround_eq_some found
  obtain ⟨rfl, rfl⟩ := unique first second parts left
  rw [substitute, found]

theorem substitute_of_none (other : List Symbol)
    (absent : (splitAround before word behind text).isSome = false) :
    substitute before word other behind text = text := by
  rw [substitute, Option.isSome_eq_false_iff.mp absent |> Option.isNone_iff_eq_none.mp]

end Substitution

end RemoteUnlock.Library
