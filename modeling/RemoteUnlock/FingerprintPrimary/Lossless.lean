import RemoteUnlock.FingerprintPrimary.Scripts
import RemoteUnlock.Library.Reading

/-!
# Applying and reverting

A line has one place at most where a keyword can be substituted, and the line that a
substitution leaves has the other keyword there (`flip_eq`).  One substitution therefore
undoes what the other does to a line, and finds nothing to do where it has been before.  The
scripts undo each other where `grep` sees the lines that `sed` changes, and no others
(`lossless_iff`).
-/

namespace RemoteUnlock.FingerprintPrimary

open Library

variable {locale : Locale}

/-- A line whose keyword is followed by what the scripts look for. -/
structure Splits (locale : Locale) (keyword line front back : Line) : Prop where
  parts : line = front ++ keyword ++ back
  front_accepted : (authPattern locale).accepts front = true
  back_accepted : (restPattern locale).accepts back = true

theorem isFlippable_iff {keyword line : Line} :
    isFlippable locale keyword line = true ↔
      ∃ front back, Splits locale keyword line front back := by
  rw [isFlippable, splitAround_isSome_iff]
  constructor
  · rintro ⟨front, back, parts, front_accepted, back_accepted⟩
    exact ⟨front, back, parts, front_accepted, back_accepted⟩
  · rintro ⟨front, back, parts, front_accepted, back_accepted⟩
    exact ⟨front, back, parts, front_accepted, back_accepted⟩

/-- What stands in front of the word behind `auth` is determined by the line. -/
theorem authPattern_unique {front other word otherWord back rest : Line}
    (isWord : IsWord locale word) (isOther : IsWord locale otherWord)
    (accepted : (authPattern locale).accepts front = true)
    (otherAccepted : (authPattern locale).accepts other = true)
    (same : front ++ word ++ back = other ++ otherWord ++ rest) :
    front = other ∧ word ++ back = otherWord ++ rest := by
  obtain ⟨lead, gap, rfl, leadBlank, isGap⟩ := accepts_authPattern_iff.mp accepted
  obtain ⟨otherLead, otherGap, rfl, otherBlank, isOtherGap⟩ :=
    accepts_authPattern_iff.mp otherAccepted
  have authIsWord : IsWord locale (text "auth") := isWord_auth
  obtain ⟨letter, auth, isAuth⟩ := List.exists_cons_of_ne_nil authIsWord.nonempty
  obtain ⟨first, letters, rfl⟩ := List.exists_cons_of_ne_nil isWord.nonempty
  obtain ⟨second, others, rfl⟩ := List.exists_cons_of_ne_nil isOther.nonempty
  have letterUnblank : isBlank locale letter = false :=
    isWord_auth.unblank letter (isAuth ▸ List.mem_cons_self)
  -- The blanks in front of `auth` end with the first letter of it.
  rw [isAuth] at same ⊢
  simp only [List.append_assoc, List.cons_append] at same
  obtain ⟨rfl, behind⟩ :=
    append_cons_unique (isBlank locale) leadBlank otherBlank letterUnblank letterUnblank same
  rw [List.cons.injEq, List.append_cancel_left_eq] at behind
  -- Those behind it end with the first letter of the next word.
  obtain ⟨rfl, words⟩ := append_cons_unique (isBlank locale) isGap.blank isOtherGap.blank
    (isWord.unblank first List.mem_cons_self) (isOther.unblank second List.mem_cons_self) behind.2
  exact ⟨rfl, words⟩

/-- The substitution of a line that has the keyword. -/
theorem Splits.flip_eq {keyword line front back : Line}
    (splits : Splits locale keyword line front back) (isWord : IsWord locale keyword)
    (other : Line) : flip locale keyword other line = front ++ other ++ back := by
  rw [splits.parts]
  apply substitute_of_unique other splits.front_accepted splits.back_accepted
  intro first second same accepted
  obtain ⟨rfl, rest⟩ :=
    authPattern_unique isWord isWord splits.front_accepted accepted same
  exact ⟨rfl, (List.append_cancel_left rest).symm⟩

/-- The line that it leaves has the other keyword. -/
theorem Splits.replaced {keyword line front back : Line}
    (splits : Splits locale keyword line front back) (other : Line) :
    Splits locale other (front ++ other ++ back) front back :=
  ⟨rfl, splits.front_accepted, splits.back_accepted⟩

theorem flip_of_not_isFlippable {keyword line : Line}
    (absent : isFlippable locale keyword line = false) (other : Line) :
    flip locale keyword other line = line :=
  substitute_of_none other absent

/-- A line has one keyword. -/
theorem Splits.keyword_unique {keyword other line front back otherFront otherBack : Line}
    (splits : Splits locale keyword line front back)
    (otherSplits : Splits locale other line otherFront otherBack)
    (isWord : IsWord locale keyword) (isOther : IsWord locale other) : keyword = other := by
  have same := splits.parts.symm.trans otherSplits.parts
  obtain ⟨_, rest⟩ := authPattern_unique isWord isOther splits.front_accepted
    otherSplits.front_accepted same
  obtain ⟨gap, _, _, rfl, isGap, _⟩ := accepts_restPattern splits.back_accepted
  obtain ⟨otherGap, _, _, rfl, isOtherGap, _⟩ := accepts_restPattern otherSplits.back_accepted
  obtain ⟨blank, blanks, rfl⟩ := List.exists_cons_of_ne_nil isGap.nonempty
  obtain ⟨otherBlank, otherBlanks, rfl⟩ := List.exists_cons_of_ne_nil isOtherGap.nonempty
  -- Both words end with the first blank behind them.
  simp only [List.append_assoc, List.cons_append] at rest
  apply (append_cons_unique (fun symbol => !isBlank locale symbol) _ _ _ _ rest).1
  · exact fun symbol membership => by simp [isWord.unblank symbol membership]
  · exact fun symbol membership => by simp [isOther.unblank symbol membership]
  · simp [isGap.blank blank List.mem_cons_self]
  · simp [isOtherGap.blank otherBlank List.mem_cons_self]

/-! ## Lines -/

section Keywords

variable {keyword other : Line}

theorem flip_ne (isWord : IsWord locale keyword) (differ : keyword ≠ other) {line : Line}
    (found : isFlippable locale keyword line = true) :
    flip locale keyword other line ≠ line := by
  obtain ⟨front, back, splits⟩ := isFlippable_iff.mp found
  rw [splits.flip_eq isWord other, splits.parts]
  intro same
  rw [List.append_cancel_right_eq, List.append_cancel_left_eq] at same
  exact differ same.symm

theorem flip_eq_iff (isWord : IsWord locale keyword) (differ : keyword ≠ other) (line : Line) :
    flip locale keyword other line = line ↔ isFlippable locale keyword line = false := by
  refine ⟨fun same => ?_, fun absent => flip_of_not_isFlippable absent other⟩
  rw [← Bool.not_eq_true]
  exact fun found => flip_ne isWord differ found same

/-- A substitution undoes the other one on the lines that it does not find itself. -/
theorem flip_flip_iff (isWord : IsWord locale keyword) (isOther : IsWord locale other)
    (differ : keyword ≠ other) (line : Line) :
    flip locale other keyword (flip locale keyword other line) = line ↔
      isFlippable locale other line = false := by
  by_cases found : isFlippable locale keyword line = true
  · obtain ⟨front, back, splits⟩ := isFlippable_iff.mp found
    rw [splits.flip_eq isWord other, (splits.replaced other).flip_eq isOther keyword]
    refine iff_of_true splits.parts.symm ?_
    rw [← Bool.not_eq_true, isFlippable_iff]
    rintro ⟨otherFront, otherBack, otherSplits⟩
    exact differ (splits.keyword_unique otherSplits isWord isOther)
  · rw [Bool.not_eq_true] at found
    rw [flip_of_not_isFlippable found, flip_eq_iff isOther differ.symm]

/-- A substitution leaves nothing for itself to do. -/
theorem isFlippable_flip (isWord : IsWord locale keyword) (isOther : IsWord locale other)
    (differ : keyword ≠ other) (line : Line) :
    isFlippable locale keyword (flip locale keyword other line) = false := by
  by_cases found : isFlippable locale keyword line = true
  · obtain ⟨front, back, splits⟩ := isFlippable_iff.mp found
    rw [splits.flip_eq isWord other, ← Bool.not_eq_true, isFlippable_iff]
    rintro ⟨otherFront, otherBack, again⟩
    exact differ (again.keyword_unique (splits.replaced other) isWord isOther)
  · rw [Bool.not_eq_true] at found
    rw [flip_of_not_isFlippable found]
    exact found

theorem not_mem_flip (isWord : IsWord locale keyword) {symbol : Symbol} (absent : symbol ∉ other)
    {line : Line} (outside : symbol ∉ line) : symbol ∉ flip locale keyword other line := by
  by_cases found : isFlippable locale keyword line = true
  · obtain ⟨front, back, splits⟩ := isFlippable_iff.mp found
    rw [splits.flip_eq isWord other]
    rw [splits.parts] at outside
    simp only [List.mem_append, not_or] at outside ⊢
    exact ⟨⟨outside.1.1, absent⟩, outside.2⟩
  · rw [Bool.not_eq_true] at found
    rw [flip_of_not_isFlippable found]
    exact outside

end Keywords

/-- A line that `sed` finds the word `sufficient` in matches the pattern of `grep`. -/
theorem isSufficient_of_isFlippable {line : Line}
    (found : isFlippable locale (text "sufficient") line = true) :
    isSufficient locale line = true := by
  obtain ⟨front, back, splits⟩ := isFlippable_iff.mp found
  obtain ⟨helper, rest, rfl, accepted, _⟩ := accepts_append_iff.mp splits.back_accepted
  rw [isSufficient, begins_iff]
  refine ⟨front ++ text "sufficient" ++ helper, rest, ?_, ?_⟩
  · rw [splits.parts, List.append_assoc _ helper rest]
  · exact accepts_append_iff.mpr ⟨front ++ text "sufficient", helper, rfl,
      accepts_append_iff.mpr ⟨front, text "sufficient", rfl, splits.front_accepted,
        accepts_literal_iff.mpr rfl⟩, accepted⟩

theorem not_isFlippable_of_not_isSufficient {line : Line}
    (absent : isSufficient locale line = false) :
    isFlippable locale (text "sufficient") line = false := by
  rw [← Bool.not_eq_true] at absent ⊢
  exact mt isSufficient_of_isFlippable absent

/-! ## Files -/

theorem unlines_lines (content : List Symbol) : unlines (lines content) = content :=
  List.intercalate_splitOn newline

theorem lines_ne_nil (content : List Symbol) : lines content ≠ [] :=
  List.splitOn_ne_nil newline content

theorem newline_notMem {content : List Symbol} :
    ∀ line ∈ lines content, newline ∉ line :=
  fun _ membership => notMem_of_mem_splitOn membership

theorem mem_of_mem_lines {content : List Symbol} {line : Line} {symbol : Symbol}
    (inside : line ∈ lines content) (membership : symbol ∈ line) : symbol ∈ content := by
  have all := (forall_mem_splitOn_iff newline content).mpr fun symbol membership =>
    (.inr membership : symbol = newline ∨ symbol ∈ content)
  exact all line inside symbol membership

theorem lines_unlines {texts : List Line} (nonempty : texts ≠ [])
    (plain : ∀ line ∈ texts, newline ∉ line) : lines (unlines texts) = texts :=
  List.splitOn_intercalate newline plain nonempty

theorem newline_notMem_text_optional : newline ∉ text "optional" := by decide

theorem newline_notMem_text_sufficient : newline ∉ text "sufficient" := by decide

theorem lines_edit {keyword other : Line} (isWord : IsWord locale keyword)
    (plain : newline ∉ other) (content : List Symbol) :
    lines (edit locale keyword other content) =
      (lines content).map (flip locale keyword other) := by
  apply lines_unlines
  · exact mt List.map_eq_nil_iff.mp (lines_ne_nil content)
  · intro line membership
    obtain ⟨source, inside, rfl⟩ := List.mem_map.mp membership
    exact not_mem_flip isWord plain (newline_notMem source inside)

theorem lines_injective {content other : List Symbol} (same : lines content = lines other) :
    content = other := by
  rw [← unlines_lines content, same, unlines_lines]

section Edits

variable {keyword other : Line}

theorem edit_eq_iff (isWord : IsWord locale keyword) (differ : keyword ≠ other)
    (plain : newline ∉ other) (content : List Symbol) :
    edit locale keyword other content = content ↔
      ∀ line ∈ lines content, isFlippable locale keyword line = false := by
  calc edit locale keyword other content = content
      ↔ (lines content).map (flip locale keyword other) = (lines content).map id := by
        rw [← lines_edit isWord plain, List.map_id]
        exact ⟨congrArg lines, lines_injective⟩
    _ ↔ ∀ line ∈ lines content, flip locale keyword other line = line := List.map_inj_left
    _ ↔ ∀ line ∈ lines content, isFlippable locale keyword line = false :=
        forall₂_congr fun line _ => flip_eq_iff isWord differ line

theorem edit_edit_iff (isWord : IsWord locale keyword) (isOther : IsWord locale other)
    (differ : keyword ≠ other) (plain : newline ∉ keyword) (otherPlain : newline ∉ other)
    (content : List Symbol) :
    edit locale other keyword (edit locale keyword other content) = content ↔
      ∀ line ∈ lines content, isFlippable locale other line = false := by
  calc edit locale other keyword (edit locale keyword other content) = content
      ↔ (lines content).map (flip locale other keyword ∘ flip locale keyword other) =
          (lines content).map id := by
        rw [← List.map_map, ← lines_edit isWord otherPlain, ← lines_edit isOther plain,
          List.map_id]
        exact ⟨congrArg lines, lines_injective⟩
    _ ↔ ∀ line ∈ lines content,
          flip locale other keyword (flip locale keyword other line) = line := List.map_inj_left
    _ ↔ ∀ line ∈ lines content, isFlippable locale other line = false :=
        forall₂_congr fun line _ => flip_flip_iff isWord isOther differ line

theorem edit_again (isWord : IsWord locale keyword) (isOther : IsWord locale other)
    (differ : keyword ≠ other) (plain : newline ∉ other) (content : List Symbol) :
    edit locale keyword other (edit locale keyword other content) =
      edit locale keyword other content := by
  rw [edit_eq_iff isWord differ plain]
  intro line membership
  rw [lines_edit isWord plain] at membership
  obtain ⟨source, _, rfl⟩ := List.mem_map.mp membership
  exact isFlippable_flip isWord isOther differ source

end Edits

/-! ## What `grep` finds -/

theorem isSwitched_iff {content : List Symbol} :
    isSwitched locale content = true ↔
      ∃ line ∈ lines content, ∃ piece ∈ pieces line, isSufficient locale piece = true := by
  simp only [isSwitched, grepLines, List.any_flatMap, List.any_eq_true]

theorem pieces_of_plain {line : Line} (plain : nul ∉ line) : pieces line = [line] :=
  List.splitOn_eq_singleton plain

/-- What is in front of the first NUL of a line. -/
def firstPiece (line : Line) : Line := (pieces line).headD []

/-- The first piece of a line holds all that comes up to the keyword. -/
theorem Splits.pieces_eq {keyword line front back : Line}
    (splits : Splits locale keyword line front back) (isWord : IsWord locale keyword) :
    pieces line = (front ++ keyword ++ firstPiece back) :: (pieces back).tail := by
  obtain ⟨lead, gap, rfl, leadBlank, isGap⟩ :=
    accepts_authPattern_iff.mp splits.front_accepted
  have plain : nul ∉ lead ++ text "auth" ++ gap ++ keyword := by
    simp only [List.mem_append, not_or]
    exact ⟨⟨⟨nul_notMem_of_blank leadBlank, (@isWord_auth locale).nul_notMem⟩,
      nul_notMem_of_blank isGap.blank⟩, isWord.nul_notMem⟩
  have parts := splitOn_append_of_notMem plain back
  obtain ⟨first, others, isBack⟩ := List.exists_cons_of_ne_nil (List.splitOn_ne_nil nul back)
  rw [splits.parts, pieces, firstPiece, pieces, parts, isBack]
  rfl

theorem firstPiece_subset (line : Line) : ∀ symbol ∈ firstPiece line, symbol ∈ line := by
  obtain ⟨first, others, parts⟩ := List.exists_cons_of_ne_nil (List.splitOn_ne_nil nul line)
  have inside : first <+: line := by
    have joined : [nul].intercalate (line.splitOn nul) = line := List.intercalate_splitOn nul
    rw [← joined, parts]
    cases others with
    | nil => simp
    | cons second others => simp [List.intercalate_cons_cons]
  intro symbol membership
  rw [firstPiece, pieces, parts] at membership
  exact inside.subset membership

/-- Where the keyword is, one pattern after the other decides. -/
theorem isFlippable_append_iff {keyword front back : Line} (isWord : IsWord locale keyword)
    (accepted : (authPattern locale).accepts front = true) :
    isFlippable locale keyword (front ++ keyword ++ back) = true ↔
      (restPattern locale).accepts back = true := by
  rw [isFlippable_iff]
  refine ⟨?_, fun rest => ⟨front, back, rfl, accepted, rest⟩⟩
  rintro ⟨otherFront, otherBack, splits⟩
  obtain ⟨_, rest⟩ :=
    authPattern_unique isWord isWord accepted splits.front_accepted splits.parts
  rw [List.append_cancel_left rest]
  exact splits.back_accepted

theorem isSufficient_append_iff {front back : Line}
    (accepted : (authPattern locale).accepts front = true)
    (characters : ∀ symbol ∈ back, isCharacter symbol = true) :
    isSufficient locale (front ++ text "sufficient" ++ back) = true ↔
      (restPattern locale).accepts back = true := by
  constructor
  · intro found
    rw [isSufficient, begins_iff] at found
    obtain ⟨begun, rest, parts, found⟩ := found
    obtain ⟨other, helper, rfl, found, isHelper⟩ := accepts_append_iff.mp found
    obtain ⟨otherFront, keyword, rfl, otherAccepted, isKeyword⟩ := accepts_append_iff.mp found
    rw [accepts_literal_iff] at isKeyword
    rw [isKeyword, List.append_assoc _ helper rest] at parts
    obtain ⟨_, same⟩ := authPattern_unique isWord_sufficient isWord_sufficient accepted
      otherAccepted parts
    obtain rfl := List.append_cancel_left same
    refine accepts_append_iff.mpr ⟨helper, rest, rfl, isHelper, ?_⟩
    exact accepts_many_iff.mpr ⟨rest, [], (List.append_nil rest).symm,
      fun symbol membership => characters symbol (List.mem_append_right _ membership), rfl⟩
  · intro rest
    apply isSufficient_of_isFlippable
    exact (isFlippable_append_iff isWord_sufficient accepted).mpr rest

/-- Once the file is edited, `grep` finds the lines that have all it looks for in front of
their first NUL. -/
theorem isSwitched_edit_iff {content : List Symbol}
    (unswitched : isSwitched locale content = false) :
    isSwitched locale (edit locale (text "optional") (text "sufficient") content) = true ↔
      ∃ line ∈ lines content, isFlippable locale (text "optional") line = true ∧
        isFlippable locale (text "optional") (firstPiece line) = true := by
  have absent : ∀ line ∈ lines content, ∀ piece ∈ pieces line,
      isSufficient locale piece ≠ true := by
    rw [← Bool.not_eq_true, isSwitched_iff] at unswitched
    exact fun line inside piece part found => unswitched ⟨line, inside, piece, part, found⟩
  have decides {line front back : Line} (splits : Splits locale (text "optional") line front back) :
      isFlippable locale (text "optional") (firstPiece line) = true ↔
        isSufficient locale (front ++ text "sufficient" ++ firstPiece back) = true := by
    have characters : ∀ symbol ∈ firstPiece back, isCharacter symbol = true :=
      fun symbol membership => isCharacter_of_accepts splits.back_accepted symbol
        (firstPiece_subset back symbol membership)
    rw [firstPiece, splits.pieces_eq isWord_optional, List.headD_cons,
      isFlippable_append_iff isWord_optional splits.front_accepted,
      isSufficient_append_iff splits.front_accepted characters]
  rw [isSwitched_iff, lines_edit isWord_optional newline_notMem_text_sufficient]
  constructor
  · rintro ⟨_, membership, piece, part, found⟩
    obtain ⟨line, inside, rfl⟩ := List.mem_map.mp membership
    by_cases flippable : isFlippable locale (text "optional") line = true
    · obtain ⟨front, back, splits⟩ := isFlippable_iff.mp flippable
      refine ⟨line, inside, flippable, (decides splits).mpr ?_⟩
      rw [splits.flip_eq isWord_optional,
        (splits.replaced (text "sufficient")).pieces_eq isWord_sufficient] at part
      rcases List.mem_cons.mp part with rfl | behind
      · exact found
      · refine absurd found (absent line inside piece ?_)
        rw [splits.pieces_eq isWord_optional]
        exact List.mem_cons_of_mem _ behind
    · rw [Bool.not_eq_true] at flippable
      rw [flip_of_not_isFlippable flippable] at part
      exact absurd found (absent line inside piece part)
  · rintro ⟨line, inside, flippable, first⟩
    obtain ⟨front, back, splits⟩ := isFlippable_iff.mp flippable
    refine ⟨_, List.mem_map_of_mem inside, _, ?_, (decides splits).mp first⟩
    rw [splits.flip_eq isWord_optional,
      (splits.replaced (text "sufficient")).pieces_eq isWord_sufficient]
    exact List.mem_cons_self

/-! ## The scripts -/

theorem text_optional_ne_sufficient : text "optional" ≠ text "sufficient" := by decide

/-- The three ways through `apply`. -/
theorem apply_cases (content : List Symbol) :
    mentionsHelper content = false ∧ apply locale (some content) = ⟨1, some content, none⟩ ∨
      mentionsHelper content = true ∧
        (isSwitched locale content = true ∧
            apply locale (some content) = ⟨0, some content, none⟩ ∨
          isSwitched locale content = false ∧
            apply locale (some content) =
              ⟨0, some (edit locale (text "optional") (text "sufficient") content),
                some content⟩) := by
  simp only [apply]
  split
  next unnamed => exact .inl ⟨by simpa using unnamed, rfl⟩
  next named =>
    refine .inr ⟨by simpa using named, ?_⟩
    split
    next switched => exact .inl ⟨switched, rfl⟩
    next unswitched => exact .inr ⟨(Bool.not_eq_true _).mp unswitched, rfl⟩

/-- The two ways through `revert`. -/
theorem revert_cases (content : List Symbol) :
    isSwitched locale content = false ∧ revert locale (some content) = ⟨0, some content, none⟩ ∨
      isSwitched locale content = true ∧
        revert locale (some content) =
          ⟨0, some (edit locale (text "sufficient") (text "optional") content),
            some content⟩ := by
  simp only [revert]
  split
  next unswitched => exact .inl ⟨by simpa using unswitched, rfl⟩
  next switched => exact .inr ⟨by simpa using switched, rfl⟩

variable (locale)

/-- A second run of a script leaves the file as the first has. -/
def RunsOnce (file : Option (List Symbol)) : Prop :=
  (apply locale (apply locale file).target).target = (apply locale file).target ∧
    (revert locale (revert locale file).target).target = (revert locale file).target

/-- In a file where no line that runs the helper has the keyword `sufficient`, applying and
reverting leave no trace, and running a script twice does what running it once does. -/
def Lossless (content : List Symbol) : Prop :=
  (∀ line ∈ lines content, (helperControl locale line).isSome = true →
      isSufficient locale line = false) →
    (revert locale (apply locale (some content)).target).target = some content ∧
      RunsOnce locale (some content) ∧ RunsOnce locale (apply locale (some content)).target

/-- `sed` finds no line with the keyword `sufficient`, and `grep` finds one that `apply`
changes, if it changes any. -/
def Restorable (content : List Symbol) : Prop :=
  if isSwitched locale content then
    ∀ line ∈ lines content, isFlippable locale (text "sufficient") line = false
  else
    mentionsHelper content = true →
      (∃ line ∈ lines content, isFlippable locale (text "optional") line = true) →
        (∀ line ∈ lines content, isFlippable locale (text "sufficient") line = false) ∧
          ∃ line ∈ lines content, isFlippable locale (text "optional") line = true ∧
            isFlippable locale (text "optional") (firstPiece line) = true

variable {locale}

/-- A second run of `apply` finds its work done, or nothing to do again. -/
theorem apply_again (content : List Symbol) :
    (apply locale (apply locale (some content)).target).target =
      (apply locale (some content)).target := by
  rcases @apply_cases locale content with ⟨_, same⟩ | ⟨_, ⟨_, same⟩ | ⟨_, edited⟩⟩
  · rw [same, same]
  · rw [same, same]
  · rw [edited]
    rcases @apply_cases locale (edit locale (text "optional") (text "sufficient") content) with
      ⟨_, same⟩ | ⟨_, ⟨_, same⟩ | ⟨_, again⟩⟩
    · rw [same]
    · rw [same]
    · rw [again, edit_again isWord_optional isWord_sufficient text_optional_ne_sufficient
        newline_notMem_text_sufficient]

theorem revert_again (content : List Symbol) :
    (revert locale (revert locale (some content)).target).target =
      (revert locale (some content)).target := by
  rcases @revert_cases locale content with ⟨_, same⟩ | ⟨_, edited⟩
  · rw [same, same]
  · rw [edited]
    rcases @revert_cases locale (edit locale (text "sufficient") (text "optional") content) with
      ⟨_, same⟩ | ⟨_, again⟩
    · rw [same]
    · rw [again, edit_again isWord_sufficient isWord_optional text_optional_ne_sufficient.symm
        newline_notMem_text_optional]

theorem runsOnce (content : List Symbol) : RunsOnce locale (some content) :=
  ⟨apply_again content, revert_again content⟩

theorem runsOnce_apply (content : List Symbol) :
    RunsOnce locale (apply locale (some content)).target := by
  rcases @apply_cases locale content with ⟨_, same⟩ | ⟨_, ⟨_, same⟩ | ⟨_, edited⟩⟩
  · rw [same]
    exact runsOnce content
  · rw [same]
    exact runsOnce content
  · rw [edited]
    exact runsOnce _

theorem edit_sufficient_eq_iff (content : List Symbol) :
    edit locale (text "sufficient") (text "optional") content = content ↔
      ∀ line ∈ lines content, isFlippable locale (text "sufficient") line = false :=
  edit_eq_iff isWord_sufficient text_optional_ne_sufficient.symm newline_notMem_text_optional
    content

/-- Reverting restores an edited file if `grep` finds a line that was edited, and `sed` none
that was not. -/
theorem revert_edit_iff {content : List Symbol} (unswitched : isSwitched locale content = false) :
    (revert locale (some (edit locale (text "optional") (text "sufficient") content))).target =
        some content ↔
      ((∃ line ∈ lines content, isFlippable locale (text "optional") line = true) →
        (∀ line ∈ lines content, isFlippable locale (text "sufficient") line = false) ∧
          ∃ line ∈ lines content, isFlippable locale (text "optional") line = true ∧
            isFlippable locale (text "optional") (firstPiece line) = true) := by
  have edits := edit_eq_iff (@isWord_optional locale) text_optional_ne_sufficient
    newline_notMem_text_sufficient content
  by_cases found : ∃ line ∈ lines content, isFlippable locale (text "optional") line = true
  · rw [imp_iff_right found, ← isSwitched_edit_iff unswitched]
    rcases @revert_cases locale (edit locale (text "optional") (text "sufficient") content) with
      ⟨absent, same⟩ | ⟨switched, edited⟩
    · rw [same, absent, Option.some.injEq, edits]
      obtain ⟨line, inside, flippable⟩ := found
      refine iff_of_false (fun all => ?_) (fun both => absurd both.2 Bool.false_ne_true)
      rw [all line inside] at flippable
      contradiction
    · rw [edited, switched, Option.some.injEq, and_iff_left rfl]
      exact edit_edit_iff isWord_optional isWord_sufficient text_optional_ne_sufficient
        newline_notMem_text_optional newline_notMem_text_sufficient content
  · refine iff_of_true ?_ fun some => absurd some found
    rw [edits.mpr fun line inside => (Bool.not_eq_true _).mp fun flippable =>
      found ⟨line, inside, flippable⟩]
    rcases @revert_cases locale content with ⟨_, same⟩ | ⟨switched, _⟩
    · rw [same]
    · rw [unswitched] at switched
      contradiction

theorem restores_iff (content : List Symbol) :
    (revert locale (apply locale (some content)).target).target = some content ↔
      Restorable locale content := by
  have reverts : (revert locale (some content)).target = some content ↔
      (isSwitched locale content = true →
        ∀ line ∈ lines content, isFlippable locale (text "sufficient") line = false) := by
    rcases @revert_cases locale content with ⟨unswitched, same⟩ | ⟨switched, edited⟩
    · rw [same, unswitched]
      exact iff_of_true rfl fun switched => absurd switched Bool.false_ne_true
    · rw [edited, switched, imp_iff_right rfl, Option.some.injEq]
      exact edit_sufficient_eq_iff content
  rw [Restorable]
  rcases @apply_cases locale content with
    ⟨unnamed, same⟩ | ⟨named, ⟨switched, same⟩ | ⟨unswitched, edited⟩⟩
  · rw [same, reverts, unnamed]
    cases isSwitched locale content <;> simp
  · rw [same, reverts, switched, if_pos rfl, imp_iff_right rfl]
  · rw [edited, revert_edit_iff unswitched, unswitched, if_neg Bool.false_ne_true, named,
      imp_iff_right rfl]

/-- They do in a text file where no line at all has the keyword `sufficient`. -/
theorem restores_of_unswitched {content : List Symbol} (plain : nul ∉ content)
    (unswitched : ∀ line ∈ lines content, isSufficient locale line = false) :
    (revert locale (apply locale (some content)).target).target = some content := by
  have linePlain : ∀ line ∈ lines content, nul ∉ line := fun line inside membership =>
    plain (mem_of_mem_lines inside membership)
  have notSwitched : isSwitched locale content = false := by
    rw [← Bool.not_eq_true, isSwitched_iff]
    rintro ⟨line, inside, piece, part, found⟩
    rw [pieces_of_plain (linePlain line inside), List.mem_singleton] at part
    rw [part, unswitched line inside] at found
    contradiction
  rw [restores_iff, Restorable, notSwitched, if_neg Bool.false_ne_true]
  rintro _ ⟨line, inside, flippable⟩
  refine ⟨fun other otherInside => ?_, line, inside, flippable, ?_⟩
  · exact not_isFlippable_of_not_isSufficient (unswitched other otherInside)
  · rw [firstPiece, pieces_of_plain (linePlain line inside)]
    exact flippable

/-- The phone as a second factor, next to another module that takes the helper's place. -/
def replacedHelper : List Symbol :=
  text "auth optional pam_exec.so quiet /lib/pam_unlock_helper.py" ++ newline ::
    text "auth sufficient pam_exec.so /bin/true # not pam_unlock_helper.py" ++ [newline]

end RemoteUnlock.FingerprintPrimary
