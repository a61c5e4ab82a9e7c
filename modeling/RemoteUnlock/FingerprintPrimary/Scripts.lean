import RemoteUnlock.Library.Pattern

/-!
# The scripts that switch the PAM mode

`apply_fingerprint_primary.sh` and `revert_fingerprint_primary.sh` look for lines of a PAM
file with `grep` and change the control keyword of others with `sed`.  A file is a sequence
of the characters that the locale makes out of its bytes, and of the bytes that it makes no
character of.  A NUL ends a line for `grep`, but not for `sed`.
-/

namespace RemoteUnlock.FingerprintPrimary

open Library

/-- What a byte of a file belongs to. -/
inductive Symbol where
  | char (character : Char)
  /-- A byte that is no part of a character; `.` does not match it. -/
  | byte (value : UInt8)
  deriving DecidableEq

/-- The blanks of the locale, which are the usual ones within ASCII. -/
structure Locale where
  isSpace : Char → Bool
  ascii : ∀ character : Char, character.toNat < 128 →
    isSpace character = [' ', '\t', '\n', '\x0b', '\x0c', '\r'].contains character

def posix : Locale where
  isSpace character := [' ', '\t', '\n', '\x0b', '\x0c', '\r'].contains character
  ascii _ _ := rfl

abbrev Line := List Symbol

def text (string : String) : Line := string.toList.map .char

def newline : Symbol := .char '\n'

def nul : Symbol := .char '\x00'

/-- The lines of a file, as `sed` takes them. -/
def lines (content : List Symbol) : List Line := content.splitOn newline

/-- The file with these lines. -/
def unlines (lines : List Line) : List Symbol := [newline].intercalate lines

/-- The parts of a line between its NULs. -/
def pieces (line : Line) : List Line := line.splitOn nul

/-- The lines of a file as `grep` takes them, which puts a newline for each NUL. -/
def grepLines (content : List Symbol) : List Line := (lines content).flatMap pieces

/-- `.` -/
def isCharacter : Symbol → Bool
  | .char _ => true
  | .byte _ => false

variable (locale : Locale)

/-- `\s` -/
def isBlank : Symbol → Bool
  | .char character => locale.isSpace character
  | .byte _ => false

/-- `\s+` -/
def blanks : Pattern Symbol := [.one (isBlank locale), .many (isBlank locale)]

/-- `\s*auth\s+` -/
def authPattern : Pattern Symbol :=
  .many (isBlank locale) :: literal (text "auth") ++ blanks locale

/-- `\s+pam_exec\.so\s+.*pam_unlock_helper\.py` -/
def helperPattern : Pattern Symbol :=
  blanks locale ++ literal (text "pam_exec.so") ++ blanks locale ++
    .many isCharacter :: literal (text "pam_unlock_helper.py")

/-- `grep -q "pam_unlock_helper.py"`, where the dot is any character -/
def namesHelper (line : Line) : Bool :=
  Pattern.occurs (literal (text "pam_unlock_helper") ++ .one isCharacter :: literal (text "py"))
    line

/-- `grep -qE '^\s*auth\s+sufficient\s+pam_exec\.so\s+.*pam_unlock_helper\.py'` -/
def isSufficient (line : Line) : Bool :=
  Pattern.begins (authPattern locale ++ literal (text "sufficient") ++ helperPattern locale) line

/-- The first `grep` of `apply` finds a line. -/
def mentionsHelper (content : List Symbol) : Bool := (grepLines content).any namesHelper

/-- The `grep` for the keyword that `apply` sets finds a line. -/
def isSwitched (content : List Symbol) : Bool :=
  (grepLines content).any (isSufficient locale)

/-- What stands behind the keyword in the patterns of `sed`. -/
def restPattern : Pattern Symbol := helperPattern locale ++ [.many isCharacter]

/-- `s/^(\s*auth\s+)keyword(\s+pam_exec\.so\s+.*pam_unlock_helper\.py.*)$/\1other\2/` -/
def flip (keyword other : Line) (line : Line) : Line :=
  substitute (authPattern locale) keyword other (restPattern locale) line

/-- `sed` finds the keyword in the line. -/
def isFlippable (keyword line : Line) : Bool :=
  (splitAround (authPattern locale) keyword (restPattern locale) line).isSome

/-- What `sed -i` does to the file. -/
def edit (keyword other : Line) (content : List Symbol) : List Symbol :=
  unlines ((lines content).map (flip locale keyword other))

/-- What a script leaves: its exit code, the target file, and the backup where it makes one. -/
structure Outcome where
  exit : ℕ
  target : Option (List Symbol)
  backup : Option (List Symbol)

/-- `apply_fingerprint_primary.sh` of a target that can be read and written, if it exists -/
def apply : Option (List Symbol) → Outcome
  | none => ⟨1, none, none⟩
  | some content =>
      if !mentionsHelper content then ⟨1, some content, none⟩
      else if isSwitched locale content then ⟨0, some content, none⟩
      else
        ⟨0, some (edit locale (text "optional") (text "sufficient") content), some content⟩

/-- `revert_fingerprint_primary.sh` -/
def revert : Option (List Symbol) → Outcome
  | none => ⟨1, none, none⟩
  | some content =>
      if !isSwitched locale content then ⟨0, some content, none⟩
      else
        ⟨0, some (edit locale (text "sufficient") (text "optional") content), some content⟩

/-! ## What PAM reads -/

/-- PAM reads a line up to a comment, or to a NUL, where a C string ends. -/
def isRead (symbol : Symbol) : Bool := symbol ≠ .char '#' && symbol ≠ nul

/-- The next word of a PAM line, or a list in brackets, and what is behind it. -/
def word (line : Line) : Line × Line :=
  let line := line.dropWhile (isBlank locale)
  let size :=
    if line.head? = some (.char '[') then (line.takeWhile (· ≠ .char ']')).length + 1
    else (line.takeWhile fun symbol => !isBlank locale symbol).length
  (line.take size, line.drop size)

/-- The path of a module names `pam_exec.so`. -/
def isPamExec (path : Line) : Bool :=
  path = text "pam_exec.so" || (text "/pam_exec.so").isSuffixOf path

/-- The control keyword of an `auth` line that runs the helper through `pam_exec.so`. -/
def helperControl (line : Line) : Option Line :=
  -- PAM also takes `-auth`, its words in capitals, and a line that a backslash continues.
  -- None of the patterns knows these, and such lines are not counted here.
  let type := word locale (line.takeWhile isRead)
  let control := word locale type.2
  let path := word locale control.2
  if type.1 = text "auth" && isPamExec path.1 &&
      Pattern.occurs (literal (text "pam_unlock_helper.py")) path.2
  then some control.1 else none

/-! ## What the pieces of the patterns accept -/

variable {locale}

theorem isBlank_char {character : Char} (small : character.toNat < 128) :
    isBlank locale (.char character) =
      [' ', '\t', '\n', '\x0b', '\x0c', '\r'].contains character :=
  locale.ascii character small

/-- A word of ASCII characters that are neither blanks nor the start of a list, and that PAM
reads. -/
structure IsWord (locale : Locale) (word : Line) : Prop where
  nonempty : word ≠ []
  unblank : ∀ symbol ∈ word, isBlank locale symbol = false
  read : ∀ symbol ∈ word, isRead symbol = true
  unlisted : word.head? ≠ some (.char '[')

theorem isWord_text {string : String} (nonempty : string.toList ≠ [])
    (plain : string.toList.all fun character => character.toNat < 128 &&
      ! [' ', '\t', '\n', '\x0b', '\x0c', '\r', '#', '\x00', '['].contains character) :
    IsWord locale (text string) := by
  rw [List.all_eq_true] at plain
  have excluded (character : Char) (membership : .char character ∈ text string) :
      character.toNat < 128 ∧
        ! [' ', '\t', '\n', '\x0b', '\x0c', '\r', '#', '\x00', '['].contains character := by
    obtain ⟨other, inside, same⟩ := List.mem_map.mp membership
    rw [← Symbol.char.inj same]
    simpa using plain other inside
  constructor
  · exact mt List.map_eq_nil_iff.mp nonempty
  · intro symbol membership
    obtain ⟨character, inside, rfl⟩ := List.mem_map.mp membership
    obtain ⟨small, other⟩ := excluded character membership
    rw [isBlank_char small]
    simp_all
  · intro symbol membership
    obtain ⟨character, inside, rfl⟩ := List.mem_map.mp membership
    have other := (excluded character membership).2
    simp only [isRead, nul, ne_eq, Symbol.char.injEq, decide_not, Bool.and_eq_true,
      Bool.not_eq_true', decide_eq_false_iff_not]
    constructor
    · rintro rfl
      exact absurd other (by decide)
    · rintro rfl
      exact absurd other (by decide)
  · intro isHead
    exact absurd (excluded '[' (List.mem_of_mem_head? isHead)).2 (by decide)

theorem isWord_auth : IsWord locale (text "auth") := isWord_text (by decide) (by decide)

theorem isWord_optional : IsWord locale (text "optional") := isWord_text (by decide) (by decide)

theorem isWord_sufficient : IsWord locale (text "sufficient") :=
  isWord_text (by decide) (by decide)

theorem isWord_pamExec : IsWord locale (text "pam_exec.so") := isWord_text (by decide) (by decide)

theorem IsWord.nul_notMem {word : Line} (isWord : IsWord locale word) : nul ∉ word :=
  fun membership => absurd (isWord.read nul membership) (by decide)

/-- A gap between two words. -/
structure IsGap (locale : Locale) (gap : Line) : Prop where
  nonempty : gap ≠ []
  blank : ∀ symbol ∈ gap, isBlank locale symbol = true

theorem isRead_of_isBlank {symbol : Symbol} (blank : isBlank locale symbol = true) :
    isRead symbol = true := by
  have unread (character : Char) (small : character.toNat < 128)
      (other : [' ', '\t', '\n', '\x0b', '\x0c', '\r'].contains character = false) :
      symbol ≠ .char character := by
    rintro rfl
    rw [isBlank_char small, other] at blank
    contradiction
  simp only [isRead, ne_eq, decide_not, Bool.and_eq_true, Bool.not_eq_true',
    decide_eq_false_iff_not]
  exact ⟨unread '#' (by decide) (by decide), unread '\x00' (by decide) (by decide)⟩

theorem nul_notMem_of_blank {line : Line}
    (blank : ∀ symbol ∈ line, isBlank locale symbol = true) : nul ∉ line :=
  fun membership => absurd (isRead_of_isBlank (blank nul membership)) (by decide)

theorem accepts_blanks_iff {line : Line} :
    (blanks locale).accepts line = true ↔ IsGap locale line := by
  rw [blanks, accepts_one_iff]
  constructor
  · rintro ⟨symbol, rest, rfl, isBlank, accepted⟩
    obtain ⟨front, back, rfl, all, isEmpty⟩ := accepts_many_iff.mp accepted
    rw [accepts_nil_iff] at isEmpty
    refine ⟨List.cons_ne_nil _ _, ?_⟩
    intro other membership
    rw [isEmpty, List.append_nil] at membership
    rcases List.mem_cons.mp membership with rfl | behind
    · exact isBlank
    · exact all other behind
  · rintro ⟨nonempty, blank⟩
    obtain ⟨symbol, rest, rfl⟩ := List.exists_cons_of_ne_nil nonempty
    refine ⟨symbol, rest, rfl, blank symbol List.mem_cons_self, ?_⟩
    exact accepts_many_iff.mpr ⟨rest, [], (List.append_nil rest).symm,
      fun other membership => blank other (List.mem_cons_of_mem _ membership), rfl⟩

theorem accepts_authPattern_iff {line : Line} :
    (authPattern locale).accepts line = true ↔
      ∃ lead gap, line = lead ++ text "auth" ++ gap ∧
        (∀ symbol ∈ lead, isBlank locale symbol = true) ∧ IsGap locale gap := by
  rw [authPattern, List.cons_append, accepts_many_iff]
  constructor
  · rintro ⟨lead, rest, rfl, blank, accepted⟩
    obtain ⟨word, gap, rfl, isAuth, isGap⟩ := accepts_append_iff.mp accepted
    rw [accepts_literal_iff] at isAuth
    rw [isAuth]
    exact ⟨lead, gap, (List.append_assoc _ _ _).symm, blank, accepts_blanks_iff.mp isGap⟩
  · rintro ⟨lead, gap, rfl, blank, isGap⟩
    exact ⟨lead, text "auth" ++ gap, List.append_assoc _ _ _, blank,
      accepts_append_iff.mpr ⟨text "auth", gap, rfl, accepts_literal_iff.mpr rfl,
        accepts_blanks_iff.mpr isGap⟩⟩

/-- What stands behind the keyword: a gap, the module, another gap, and the arguments. -/
theorem accepts_helperPattern {line : Line}
    (accepted : (helperPattern locale).accepts line = true) :
    ∃ gap next arguments, line = gap ++ text "pam_exec.so" ++ next ++ arguments ∧
      IsGap locale gap ∧ IsGap locale next := by
  rw [helperPattern, List.append_assoc, List.append_assoc] at accepted
  obtain ⟨gap, rest, rfl, isGap, accepted⟩ := accepts_append_iff.mp accepted
  obtain ⟨word, rest, rfl, isModule, accepted⟩ := accepts_append_iff.mp accepted
  obtain ⟨next, arguments, rfl, isNext, _⟩ := accepts_append_iff.mp accepted
  rw [accepts_literal_iff] at isModule
  rw [isModule]
  exact ⟨gap, next, arguments, by simp only [List.append_assoc], accepts_blanks_iff.mp isGap,
    accepts_blanks_iff.mp isNext⟩

theorem isCharacter_of_isBlank {symbol : Symbol} (blank : isBlank locale symbol = true) :
    isCharacter symbol = true := by
  cases symbol with
  | char character => rfl
  | byte value => contradiction

theorem isCharacter_text (string : String) : ∀ symbol ∈ text string, isCharacter symbol = true := by
  intro symbol membership
  obtain ⟨character, _, rfl⟩ := List.mem_map.mp membership
  rfl

/-- What `sed` finds behind the keyword consists of characters. -/
theorem isCharacter_of_accepts {line : Line}
    (accepted : (restPattern locale).accepts line = true) :
    ∀ symbol ∈ line, isCharacter symbol = true := by
  rw [restPattern, helperPattern, List.append_assoc, List.append_assoc, List.append_assoc]
    at accepted
  obtain ⟨gap, rest, rfl, isGap, accepted⟩ := accepts_append_iff.mp accepted
  obtain ⟨module, rest, rfl, isModule, accepted⟩ := accepts_append_iff.mp accepted
  obtain ⟨next, rest, rfl, isNext, accepted⟩ := accepts_append_iff.mp accepted
  rw [List.cons_append] at accepted
  obtain ⟨path, rest, rfl, characters, accepted⟩ := accepts_many_iff.mp accepted
  obtain ⟨name, rest, rfl, isName, accepted⟩ := accepts_append_iff.mp accepted
  obtain ⟨others, rest, rfl, more, isEmpty⟩ := accepts_many_iff.mp accepted
  rw [accepts_literal_iff] at isModule isName
  rw [accepts_nil_iff] at isEmpty
  have gaps := fun symbol membership =>
    isCharacter_of_isBlank ((accepts_blanks_iff.mp isGap).blank symbol membership)
  have nexts := fun symbol membership =>
    isCharacter_of_isBlank ((accepts_blanks_iff.mp isNext).blank symbol membership)
  rw [isModule, isName, isEmpty, List.append_nil]
  simp only [List.forall_mem_append]
  exact ⟨gaps, isCharacter_text _, nexts, characters, isCharacter_text _, more⟩

theorem accepts_restPattern {line : Line}
    (accepted : (restPattern locale).accepts line = true) :
    ∃ gap next arguments, line = gap ++ text "pam_exec.so" ++ next ++ arguments ∧
      IsGap locale gap ∧ IsGap locale next := by
  obtain ⟨front, back, rfl, front_accepted, _⟩ := accepts_append_iff.mp accepted
  obtain ⟨gap, next, arguments, rfl, isGap, isNext⟩ := accepts_helperPattern front_accepted
  exact ⟨gap, next, arguments ++ back, List.append_assoc _ _ _, isGap, isNext⟩

end RemoteUnlock.FingerprintPrimary
