import Mathlib.Data.List.Nodup
import RemoteUnlock.Python.TextFile

/-!
# The hash function

A `Sha256` is any function from data to hexadecimal digits; that it has no
collisions is a hypothesis of the results that need it.  `Sha256.table` is one
with the digests of some data given, for evaluating the code on them.
-/

namespace RemoteUnlock.Audit

open Python

def isHexDigit (character : Char) : Bool :=
  character.isDigit || ('a' ≤ character && character ≤ 'f')

/-- `hashlib.sha256(data).hexdigest()` as a function of the data. -/
structure Sha256 where
  hexdigest : Bytes → Text
  isHex : ∀ data, ∀ digit ∈ hexdigest data, isHexDigit digit = true

def hexByte (byte : UInt8) : Text :=
  [Nat.digitChar (byte.toNat / 16), Nat.digitChar (byte.toNat % 16)]

theorem isHexDigit_digitChar : ∀ digit, digit < 16 →
    isHexDigit (Nat.digitChar digit) = true := by
  decide

theorem digitChar_injective : ∀ first, first < 16 → ∀ second, second < 16 →
    Nat.digitChar first = Nat.digitChar second → first = second := by
  decide

theorem hexByte_isHex (byte : UInt8) : ∀ digit ∈ hexByte byte, isHexDigit digit = true := by
  have bound := byte.toNat_lt
  simp only [hexByte, List.mem_cons, List.not_mem_nil, or_false]
  rintro digit (rfl | rfl)
  · exact isHexDigit_digitChar _ (by omega)
  · exact isHexDigit_digitChar _ (by omega)

theorem flatMap_hexByte_injective : Function.Injective (List.flatMap hexByte) := by
  intro first second same
  induction first generalizing second with
  | nil =>
      cases second with
      | nil => rfl
      | cons byte second => simp [hexByte] at same
  | cons byte first inductionHypothesis =>
      cases second with
      | nil => simp [hexByte] at same
      | cons other second =>
          simp only [List.flatMap_cons, hexByte, List.cons_append, List.nil_append,
            List.cons.injEq] at same
          rcases same with ⟨high, low, rest⟩
          have bound := byte.toNat_lt
          have otherBound := other.toNat_lt
          have highSame := digitChar_injective _ (by omega) _ (by omega) high
          have lowSame := digitChar_injective _ (by omega) _ (by omega) low
          rw [inductionHypothesis rest, UInt8.toNat_inj.mp (by omega : byte.toNat = other.toNat)]

namespace Sha256

/-- Data with their digests: no two alike, each of 64 hexadecimal digits. -/
structure Known where
  pairs : List (Bytes × Text)
  distinct : (pairs.map Prod.snd).Nodup
  isHex : ∀ pair ∈ pairs, ∀ digit ∈ pair.2, isHexDigit digit = true
  length : ∀ pair ∈ pairs, pair.2.length = 64

/-- The digests of a table; all other data are spelled out, in an odd number of digits. -/
def table (known : Known) : Sha256 where
  hexdigest data :=
    match known.pairs.find? fun pair => pair.1 = data with
    | some pair => pair.2
    | none => 'f' :: data.flatMap hexByte
  isHex := by
    intro data digit membership
    split at membership
    next pair found => exact known.isHex pair (List.mem_of_find?_eq_some found) digit membership
    · rcases List.mem_cons.mp membership with rfl | spelled
      · decide
      · rcases List.mem_flatMap.mp spelled with ⟨byte, _, inByte⟩
        exact hexByte_isHex byte digit inByte

theorem length_spelled (data : Bytes) :
    ('f' :: data.flatMap hexByte).length = 2 * data.length + 1 := by
  simp [List.length_flatMap, hexByte, Nat.mul_comm]

theorem table_injective (known : Known) : Function.Injective (table known).hexdigest := by
  intro first second same
  simp only [table] at same
  split at same
  next pair found =>
    split at same
    next other otherFound =>
      have member := List.mem_of_find?_eq_some found
      have otherMember := List.mem_of_find?_eq_some otherFound
      have samePair := List.inj_on_of_nodup_map known.distinct member otherMember same
      have here := List.find?_some found
      have there := List.find?_some otherFound
      rw [samePair] at here
      simp only [decide_eq_true_eq] at here there
      rw [← here, ← there]
    · have length := known.length pair (List.mem_of_find?_eq_some found)
      rw [same, length_spelled] at length
      omega
  · split at same
    next other otherFound =>
      have length := known.length other (List.mem_of_find?_eq_some otherFound)
      rw [← same, length_spelled] at length
      omega
    · exact flatMap_hexByte_injective (List.cons.inj same).2

/-! ## Digests none of which starts another -/

/-- Data spelled out with an end. -/
def spell (data : Bytes) : Text := data.flatMap (fun byte => 'f' :: hexByte byte) ++ ['e']

theorem spell_isHex (data : Bytes) : ∀ digit ∈ spell data, isHexDigit digit = true := by
  intro digit membership
  rcases List.mem_append.mp membership with spelled | last
  · obtain ⟨byte, _, inByte⟩ := List.mem_flatMap.mp spelled
    rcases List.mem_cons.mp inByte with rfl | inHex
    · decide
    · exact hexByte_isHex byte digit inHex
  · rw [List.mem_singleton.mp last]
    decide

theorem head_spell (data : Bytes) : ∃ first rest, spell data = first :: rest ∧
    (first = 'e' ∨ first = 'f') := by
  cases data with
  | nil => exact ⟨'e', [], rfl, .inl rfl⟩
  | cons byte data => exact ⟨'f', _, rfl, .inr rfl⟩

theorem eq_of_spell_prefix {first second : Bytes} (starts : spell first <+: spell second) :
    first = second := by
  induction first generalizing second with
  | nil =>
      cases second with
      | nil => rfl
      | cons byte second => simp [spell] at starts
  | cons byte first inductionHypothesis =>
      cases second with
      | nil => simp [spell] at starts
      | cons other second =>
          simp only [spell, List.flatMap_cons, hexByte, List.cons_append, List.nil_append,
            List.cons_prefix_cons] at starts
          obtain ⟨_, high, low, rest⟩ := starts
          have bound := byte.toNat_lt
          have otherBound := other.toNat_lt
          have highSame := digitChar_injective _ (by omega) _ (by omega) high
          have lowSame := digitChar_injective _ (by omega) _ (by omega) low
          rw [inductionHypothesis rest, UInt8.toNat_inj.mp (by omega : byte.toNat = other.toNat)]

/-- The digests of a table; all other data are spelled out with an end. -/
def coded (known : Known) : Sha256 where
  hexdigest data :=
    match known.pairs.find? fun pair => pair.1 = data with
    | some pair => pair.2
    | none => spell data
  isHex := by
    intro data digit membership
    split at membership
    next pair found => exact known.isHex pair (List.mem_of_find?_eq_some found) digit membership
    · exact spell_isHex data digit membership

/-- No digest of a table starts like data spelled out. -/
def Known.Apart (known : Known) : Prop :=
  ∀ pair ∈ known.pairs, ∀ digit ∈ pair.2.head?, digit ≠ 'e' ∧ digit ≠ 'f'

theorem Known.apart_of_all {known : Known}
    (checked : known.pairs.all (fun pair => pair.2.head?.all fun digit =>
      digit != 'e' && digit != 'f') = true) : known.Apart := by
  intro pair member digit isHead
  have unmarked := List.all_eq_true.mp checked pair member
  rw [Option.mem_def.mp isHead] at unmarked
  simpa using unmarked

theorem eq_of_coded_prefix {known : Known} (apart : known.Apart) {first second : Bytes}
    (starts : (coded known).hexdigest first <+: (coded known).hexdigest second) :
    first = second := by
  simp only [coded] at starts
  have headed : ∀ pair ∈ known.pairs, ∀ data,
      ¬ (pair.2 <+: spell data ∨ spell data <+: pair.2) := by
    intro pair member data either
    obtain ⟨digit, rest, spelled, isMark⟩ := head_spell data
    have length := known.length pair member
    cases digits : pair.2 with
    | nil =>
        rw [digits] at length
        contradiction
    | cons other digits' =>
        have different := apart pair member other (by simp [digits])
        rw [digits, spelled, List.cons_prefix_cons, List.cons_prefix_cons] at either
        have same : other = digit := by
          rcases either with ⟨same, _⟩ | ⟨same, _⟩
          · exact same
          · exact same.symm
        rw [same] at different
        rcases isMark with rfl | rfl
        · exact different.1 rfl
        · exact different.2 rfl
  split at starts
  next pair found =>
    have member := List.mem_of_find?_eq_some found
    split at starts
    next other otherFound =>
      have otherMember := List.mem_of_find?_eq_some otherFound
      have digests : pair.2 = other.2 := by
        apply starts.eq_of_length
        rw [known.length pair member, known.length other otherMember]
      have samePair := List.inj_on_of_nodup_map known.distinct member otherMember digests
      have here := List.find?_some found
      have there := List.find?_some otherFound
      rw [samePair] at here
      simp only [decide_eq_true_eq] at here there
      rw [← here, ← there]
    · exact absurd (.inl starts) (headed pair member second)
  · split at starts
    next other otherFound =>
      exact absurd (.inr starts) (headed other (List.mem_of_find?_eq_some otherFound) first)
    · exact eq_of_spell_prefix starts

theorem not_coded_prefix {known : Known} {text : Text} (length : text.length = 64)
    (other : ∀ pair ∈ known.pairs, pair.2 ≠ text)
    (unmarked : ∀ digit ∈ text.head?, digit ≠ 'e' ∧ digit ≠ 'f') (data : Bytes) :
    ¬ (coded known).hexdigest data <+: text := by
  intro starts
  simp only [coded] at starts
  split at starts
  next pair found =>
    have member := List.mem_of_find?_eq_some found
    apply other pair member
    apply starts.eq_of_length
    rw [known.length pair member, length]
  · obtain ⟨digit, rest, spelled, isMark⟩ := head_spell data
    cases text with
    | nil => contradiction
    | cons first text =>
        have different := unmarked first (by simp)
        rw [spelled, List.cons_prefix_cons] at starts
        rw [← starts.1] at different
        rcases isMark with rfl | rfl
        · exact different.1 rfl
        · exact different.2 rfl

end Sha256

end RemoteUnlock.Audit
