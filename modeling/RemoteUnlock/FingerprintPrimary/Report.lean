import Mathlib.Data.List.Forall2
import RemoteUnlock.FingerprintPrimary.Lossless

/-!
# What the scripts report

A script that exits with 0 says that the mode is switched.  It is where every line that
runs the helper has the keyword the script looks for, or the other mode's already, and
where `sed` finds no line besides those, unless the guards of the script have stopped it
(`switches_iff`).
-/

namespace RemoteUnlock.FingerprintPrimary

open Library

variable (locale : Locale)

/-- The lines that do not run the helper are as they were. -/
def KeepsOthers (content after : List Symbol) : Prop :=
  List.Forall₂ (fun line later => helperControl locale line = none → later = line)
    (lines content) (lines after)

/-- What `apply` says by exiting with 0: some line runs the helper, every line that does is
`sufficient`, and the others are as they were. -/
def ApplyReports (content : List Symbol) : Prop :=
  (apply locale (some content)).exit = 0 →
    ∃ after, (apply locale (some content)).target = some after ∧
      (∃ line ∈ lines after, (helperControl locale line).isSome = true) ∧
      (∀ line ∈ lines after, ∀ control, helperControl locale line = some control →
        control = text "sufficient") ∧
      KeepsOthers locale content after

/-- What `revert` says by exiting with 0: no line that runs the helper is `sufficient`, and
the others are as they were. -/
def RevertReports (content : List Symbol) : Prop :=
  (revert locale (some content)).exit = 0 →
    ∃ after, (revert locale (some content)).target = some after ∧
      (∀ line ∈ lines after, helperControl locale line ≠ some (text "sufficient")) ∧
      KeepsOthers locale content after

/-- All lines that `sed` finds run the helper. -/
def FindsHelpers (keyword : Line) (content : List Symbol) : Prop :=
  ∀ line ∈ lines content, isFlippable locale keyword line = true →
    (helperControl locale line).isSome = true

/-- `apply` stops, has nothing to do, or finds what there is to do. -/
def ApplySwitches (content : List Symbol) : Prop :=
  mentionsHelper content = false ∨
    (∃ line ∈ lines content, (helperControl locale line).isSome = true) ∧
      if isSwitched locale content then
        ∀ line ∈ lines content, ∀ control, helperControl locale line = some control →
          control = text "sufficient"
      else
        (∀ line ∈ lines content, ∀ control, helperControl locale line = some control →
          control = text "sufficient" ∨ isFlippable locale (text "optional") line = true) ∧
        FindsHelpers locale (text "optional") content

/-- `revert` finds what there is to do, or there is nothing. -/
def RevertSwitches (content : List Symbol) : Prop :=
  if isSwitched locale content then
    (∀ line ∈ lines content, helperControl locale line = some (text "sufficient") →
      isFlippable locale (text "sufficient") line = true) ∧
    FindsHelpers locale (text "sufficient") content
  else
    ∀ line ∈ lines content, helperControl locale line ≠ some (text "sufficient")

/-! ## The control keyword of a line -/

variable {locale}

/-- The next word, behind blanks and up to the next blank. -/
theorem word_append {lead rest keyword : Line} (isWord : IsWord locale keyword)
    (blank : ∀ symbol ∈ lead, isBlank locale symbol = true)
    (ends : ∀ symbol ∈ rest.head?, isBlank locale symbol = true) :
    word locale (lead ++ keyword ++ rest) = (keyword, rest) := by
  obtain ⟨first, letters, rfl⟩ := List.exists_cons_of_ne_nil isWord.nonempty
  have dropped : (lead ++ (first :: letters) ++ rest).dropWhile (isBlank locale) =
      (first :: letters) ++ rest := by
    rw [List.append_assoc, List.dropWhile_append_of_pos blank, List.cons_append,
      List.dropWhile_cons, isWord.unblank first List.mem_cons_self]
    rfl
  have taken : ((first :: letters) ++ rest).takeWhile (fun symbol => !isBlank locale symbol) =
      first :: letters := by
    rw [List.takeWhile_append_of_pos fun symbol membership => by
      simp [isWord.unblank symbol membership]]
    cases rest with
    | nil => simp
    | cons blank rest => simp [ends blank rfl]
  have unlisted : ((first :: letters) ++ rest).head? ≠ some (.char '[') := isWord.unlisted
  simp only [word, dropped, if_neg unlisted, taken]
  rw [List.take_left, List.drop_left]

theorem head?_gap {gap : Line} (isGap : IsGap locale gap) (rest : Line) :
    ∀ symbol ∈ (gap ++ rest).head?, isBlank locale symbol = true := by
  obtain ⟨first, blanks, rfl⟩ := List.exists_cons_of_ne_nil isGap.nonempty
  intro symbol isHead
  rw [List.cons_append, List.head?_cons, Option.mem_some_iff] at isHead
  exact isHead ▸ isGap.blank first List.mem_cons_self

/-- A line with a keyword in the place where `sed` looks for one has that keyword, or none at
all where the helper stands behind a comment or a NUL. -/
theorem helperControl_of_accepts {front back : Line}
    (front_accepted : (authPattern locale).accepts front = true)
    (back_accepted : (restPattern locale).accepts back = true) :
    ∃ runs : Bool, ∀ keyword, IsWord locale keyword →
      helperControl locale (front ++ keyword ++ back) = if runs then some keyword else none := by
  obtain ⟨lead, gap, rfl, leadBlank, isGap⟩ := accepts_authPattern_iff.mp front_accepted
  obtain ⟨middle, next, arguments, rfl, isMiddle, isNext⟩ := accepts_restPattern back_accepted
  refine ⟨Pattern.occurs (literal (text "pam_unlock_helper.py"))
    (next ++ arguments.takeWhile isRead), fun keyword isWord => ?_⟩
  have authIsWord : IsWord locale (text "auth") := isWord_auth
  have pamIsWord : IsWord locale (text "pam_exec.so") := isWord_pamExec
  -- Nothing ends the line before the arguments.
  have taken : (lead ++ text "auth" ++ gap ++ keyword ++
      (middle ++ text "pam_exec.so" ++ next ++ arguments)).takeWhile isRead =
      lead ++ text "auth" ++ (gap ++ keyword ++ (middle ++ text "pam_exec.so" ++
        (next ++ arguments.takeWhile isRead))) := by
    have read : ∀ symbol ∈ lead ++ text "auth" ++ gap ++ keyword ++
        (middle ++ text "pam_exec.so" ++ next), isRead symbol = true := by
      simp only [List.forall_mem_append]
      exact ⟨⟨⟨⟨fun symbol inside => isRead_of_isBlank (leadBlank symbol inside),
            authIsWord.read⟩, fun symbol inside => isRead_of_isBlank (isGap.blank symbol inside)⟩,
          isWord.read⟩,
        ⟨fun symbol inside => isRead_of_isBlank (isMiddle.blank symbol inside), pamIsWord.read⟩,
        fun symbol inside => isRead_of_isBlank (isNext.blank symbol inside)⟩
    rw [← List.append_assoc _ (middle ++ text "pam_exec.so" ++ next) arguments,
      List.takeWhile_append_of_pos read]
    simp only [List.append_assoc]
  have isAuth (bare : Line) : word locale (lead ++ text "auth" ++
      (gap ++ keyword ++ (middle ++ text "pam_exec.so" ++ (next ++ bare)))) =
        (text "auth", gap ++ keyword ++ (middle ++ text "pam_exec.so" ++ (next ++ bare))) :=
    word_append authIsWord leadBlank (by rw [List.append_assoc]; exact head?_gap isGap _)
  have isControl (bare : Line) : word locale (gap ++ keyword ++
      (middle ++ text "pam_exec.so" ++ (next ++ bare))) =
        (keyword, middle ++ text "pam_exec.so" ++ (next ++ bare)) :=
    word_append isWord isGap.blank (by rw [List.append_assoc]; exact head?_gap isMiddle _)
  have isPath (bare : Line) : word locale (middle ++ text "pam_exec.so" ++ (next ++ bare)) =
      (text "pam_exec.so", next ++ bare) :=
    word_append pamIsWord isMiddle.blank (head?_gap isNext _)
  simp only [helperControl, taken, isAuth, isControl, isPath, isPamExec, decide_true,
    Bool.true_or, Bool.true_and]

section Keywords

variable {keyword other : Line}

theorem helperControl_flip (isWord : IsWord locale keyword) (isOther : IsWord locale other)
    {line control : Line} (found : isFlippable locale keyword line = true)
    (runs : helperControl locale line = some control) :
    control = keyword ∧ helperControl locale (flip locale keyword other line) = some other := by
  obtain ⟨front, back, splits⟩ := isFlippable_iff.mp found
  obtain ⟨isRun, controls⟩ :=
    helperControl_of_accepts splits.front_accepted splits.back_accepted
  rw [splits.parts, controls keyword isWord] at runs
  rw [splits.flip_eq isWord other, controls other isOther]
  cases isRun with
  | false => contradiction
  | true => exact ⟨(Option.some.inj runs).symm, rfl⟩

theorem keepsOthers_self (content : List Symbol) : KeepsOthers locale content content :=
  List.forall₂_same.mpr fun _ _ _ => rfl

theorem keepsOthers_edit_iff (isWord : IsWord locale keyword) (differ : keyword ≠ other)
    (plain : newline ∉ other) (content : List Symbol) :
    KeepsOthers locale content (edit locale keyword other content) ↔
      FindsHelpers locale keyword content := by
  rw [KeepsOthers, lines_edit isWord plain, List.forall₂_map_right_iff, List.forall₂_same]
  apply forall₂_congr
  intro line _
  constructor
  · intro kept found
    rw [Option.isSome_iff_ne_none]
    exact fun idle => flip_ne isWord differ found (kept idle)
  · intro helps idle
    apply flip_of_not_isFlippable
    rw [← Bool.not_eq_true]
    intro found
    have runs := helps found
    rw [idle] at runs
    contradiction

/-- The lines that run the helper once the file is edited. -/
theorem helperControl_edit_iff (isWord : IsWord locale keyword) (isOther : IsWord locale other)
    (differ : keyword ≠ other) (plain : newline ∉ other) {content : List Symbol}
    (helps : FindsHelpers locale keyword content) (control : Line) :
    (∃ line ∈ lines (edit locale keyword other content),
        helperControl locale line = some control) ↔
      ∃ line ∈ lines content,
        isFlippable locale keyword line = true ∧ control = other ∨
          isFlippable locale keyword line = false ∧
            helperControl locale line = some control := by
  rw [lines_edit isWord plain]
  constructor
  · rintro ⟨_, membership, runs⟩
    obtain ⟨line, inside, rfl⟩ := List.mem_map.mp membership
    refine ⟨line, inside, ?_⟩
    by_cases found : isFlippable locale keyword line = true
    · obtain ⟨before, isBefore⟩ := Option.isSome_iff_exists.mp (helps line inside found)
      rw [(helperControl_flip isWord isOther found isBefore).2] at runs
      exact .inl ⟨found, (Option.some.inj runs).symm⟩
    · rw [Bool.not_eq_true] at found
      rw [flip_of_not_isFlippable found] at runs
      exact .inr ⟨found, runs⟩
  · rintro ⟨line, inside, ⟨found, rfl⟩ | ⟨absent, runs⟩⟩
    · obtain ⟨before, isBefore⟩ := Option.isSome_iff_exists.mp (helps line inside found)
      exact ⟨_, List.mem_map_of_mem inside, (helperControl_flip isWord isOther found isBefore).2⟩
    · refine ⟨_, List.mem_map_of_mem inside, ?_⟩
      rw [flip_of_not_isFlippable absent]
      exact runs

end Keywords

/-! ## The reports -/

/-- An edit does what `revert` reports. -/
theorem edit_optional_iff {content after : List Symbol}
    (isEdited : after = edit locale (text "sufficient") (text "optional") content) :
    ((∀ line ∈ lines after, helperControl locale line ≠ some (text "sufficient")) ∧
        KeepsOthers locale content after) ↔
      (∀ line ∈ lines content, helperControl locale line = some (text "sufficient") →
        isFlippable locale (text "sufficient") line = true) ∧
      FindsHelpers locale (text "sufficient") content := by
  rw [isEdited]
  have kept := keepsOthers_edit_iff (@isWord_sufficient locale)
    text_optional_ne_sufficient.symm newline_notMem_text_optional content
  constructor
  · rintro ⟨switched, others⟩
    have helps := kept.mp others
    refine ⟨fun line inside runs => ?_, helps⟩
    apply (Bool.not_eq_false _).mp
    intro absent
    obtain ⟨later, membership, again⟩ := (helperControl_edit_iff isWord_sufficient
      isWord_optional text_optional_ne_sufficient.symm newline_notMem_text_optional helps
      (text "sufficient")).mpr ⟨line, inside, .inr ⟨absent, runs⟩⟩
    exact switched later membership again
  · rintro ⟨finds, helps⟩
    refine ⟨fun later membership again => ?_, kept.mpr helps⟩
    obtain ⟨line, inside, ⟨_, same⟩ | ⟨absent, runs⟩⟩ := (helperControl_edit_iff
      isWord_sufficient isWord_optional text_optional_ne_sufficient.symm
      newline_notMem_text_optional helps (text "sufficient")).mp ⟨later, membership, again⟩
    · exact text_optional_ne_sufficient same.symm
    · rw [finds line inside runs] at absent
      contradiction

theorem revertReports_iff (content : List Symbol) :
    RevertReports locale content ↔ RevertSwitches locale content := by
  rw [RevertReports, RevertSwitches]
  rcases @revert_cases locale content with ⟨unswitched, ends⟩ | ⟨switched, ends⟩
  · rw [ends, unswitched, if_neg Bool.false_ne_true]
    constructor
    · intro reports
      obtain ⟨after, same, optional, _⟩ := reports rfl
      obtain rfl := Option.some.inj same
      exact optional
    · exact fun optional _ => ⟨content, rfl, optional, keepsOthers_self content⟩
  · rw [ends, switched, if_pos rfl, ← edit_optional_iff rfl]
    constructor
    · intro reports
      obtain ⟨after, same, reported⟩ := reports rfl
      obtain rfl := Option.some.inj same
      exact reported
    · exact fun reported _ => ⟨_, rfl, reported⟩

/-- An edit does what `apply` reports. -/
theorem edit_sufficient_iff {content after : List Symbol}
    (isEdited : after = edit locale (text "optional") (text "sufficient") content) :
    ((∃ line ∈ lines after, (helperControl locale line).isSome = true) ∧
        (∀ line ∈ lines after, ∀ control, helperControl locale line = some control →
          control = text "sufficient") ∧
        KeepsOthers locale content after) ↔
      (∃ line ∈ lines content, (helperControl locale line).isSome = true) ∧
        (∀ line ∈ lines content, ∀ control, helperControl locale line = some control →
          control = text "sufficient" ∨ isFlippable locale (text "optional") line = true) ∧
        FindsHelpers locale (text "optional") content := by
  rw [isEdited]
  have kept := keepsOthers_edit_iff (@isWord_optional locale)
    text_optional_ne_sufficient newline_notMem_text_sufficient content
  have edited (helps : FindsHelpers locale (text "optional") content) :=
    helperControl_edit_iff isWord_optional isWord_sufficient text_optional_ne_sufficient
      newline_notMem_text_sufficient helps
  constructor
  · rintro ⟨⟨later, membership, runs⟩, switched, others⟩
    have helps := kept.mp others
    refine ⟨?_, fun line inside control runs => ?_, helps⟩
    · obtain ⟨control, isControl⟩ := Option.isSome_iff_exists.mp runs
      obtain ⟨line, inside, ⟨found, _⟩ | ⟨_, runs⟩⟩ :=
        (edited helps control).mp ⟨later, membership, isControl⟩
      · exact ⟨line, inside, helps line inside found⟩
      · exact ⟨line, inside, Option.isSome_iff_exists.mpr ⟨control, runs⟩⟩
    · by_cases found : isFlippable locale (text "optional") line = true
      · exact .inr found
      · rw [Bool.not_eq_true] at found
        obtain ⟨later, membership, again⟩ :=
          (edited helps control).mpr ⟨line, inside, .inr ⟨found, runs⟩⟩
        exact .inl (switched later membership control again)
  · rintro ⟨⟨line, inside, runs⟩, finds, helps⟩
    refine ⟨?_, fun later membership control again => ?_, kept.mpr helps⟩
    · obtain ⟨control, isControl⟩ := Option.isSome_iff_exists.mp runs
      by_cases found : isFlippable locale (text "optional") line = true
      · obtain ⟨later, membership, again⟩ :=
          (edited helps (text "sufficient")).mpr ⟨line, inside, .inl ⟨found, rfl⟩⟩
        exact ⟨later, membership, Option.isSome_iff_exists.mpr ⟨_, again⟩⟩
      · rw [Bool.not_eq_true] at found
        obtain ⟨later, membership, again⟩ :=
          (edited helps control).mpr ⟨line, inside, .inr ⟨found, isControl⟩⟩
        exact ⟨later, membership, Option.isSome_iff_exists.mpr ⟨_, again⟩⟩
    · obtain ⟨line, inside, ⟨_, same⟩ | ⟨absent, runs⟩⟩ :=
        (edited helps control).mp ⟨later, membership, again⟩
      · exact same
      · rcases finds line inside control runs with same | found
        · exact same
        · rw [found] at absent
          contradiction

theorem applyReports_iff (content : List Symbol) :
    ApplyReports locale content ↔ ApplySwitches locale content := by
  rw [ApplyReports, ApplySwitches]
  rcases @apply_cases locale content with
    ⟨unnamed, ends⟩ | ⟨named, ⟨switched, ends⟩ | ⟨unswitched, ends⟩⟩
  · rw [ends]
    exact ⟨fun _ => .inl unnamed, fun _ exits => absurd exits Nat.one_ne_zero⟩
  · have notUnnamed : mentionsHelper content ≠ false := by simp [named]
    rw [ends, if_pos switched, or_iff_right notUnnamed]
    constructor
    · intro reports
      obtain ⟨after, same, runs, sufficient, _⟩ := reports rfl
      obtain rfl := Option.some.inj same
      exact ⟨runs, sufficient⟩
    · rintro ⟨runs, sufficient⟩ _
      exact ⟨content, rfl, runs, sufficient, keepsOthers_self content⟩
  · have notUnnamed : mentionsHelper content ≠ false := by simp [named]
    rw [ends, unswitched, if_neg Bool.false_ne_true, or_iff_right notUnnamed,
      ← edit_sufficient_iff rfl]
    constructor
    · intro reports
      obtain ⟨after, same, reported⟩ := reports rfl
      obtain rfl := Option.some.inj same
      exact reported
    · exact fun reported _ => ⟨_, rfl, reported⟩

/-- The line of the setup that requires the phone and the password. -/
def bothRequired : List Symbol :=
  text "auth  requisite  pam_exec.so quiet /usr/local/lib/remote-unlock/pam_unlock_helper.py" ++
    [newline]

end RemoteUnlock.FingerprintPrimary
