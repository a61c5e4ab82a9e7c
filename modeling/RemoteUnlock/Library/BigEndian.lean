import Mathlib.Data.Nat.Size
import Mathlib.Tactic.Ring

/-!
# Big-endian numbers and their DER encodings

A number in a fixed number of bytes, and the number some bytes stand for, undo each
other.  The distinguished encoding of an integer takes as few bytes as leave its sign bit
clear (`width_minimal`), and a sequence of two integers is determined by its encoding
(`pair_injective`).  Only the short form of lengths occurs below 128 bytes, so the
number of bytes of such a sequence follows from the sizes of the two numbers.
-/

namespace RemoteUnlock.Library.BigEndian

/-! ## Numbers in bytes -/

/-- The bytes of a number, most significant first. -/
def toBytes : ℕ → ℕ → List UInt8
  | 0, _ => []
  | width + 1, value =>
      UInt8.ofNat (value / 256 ^ width) :: toBytes width (value % 256 ^ width)

/-- The number that bytes stand for. -/
def ofBytes (bytes : List UInt8) : ℕ :=
  bytes.foldl (fun value byte => 256 * value + byte.toNat) 0

@[simp]
theorem length_toBytes (width value : ℕ) : (toBytes width value).length = width := by
  induction width generalizing value with
  | zero => rfl
  | succ width inductionHypothesis => rw [toBytes, List.length_cons, inductionHypothesis]

@[simp]
theorem ofBytes_nil : ofBytes [] = 0 := rfl

theorem ofBytes_cons (byte : UInt8) (bytes : List UInt8) :
    ofBytes (byte :: bytes) = byte.toNat * 256 ^ bytes.length + ofBytes bytes := by
  have startingAt : ∀ (bytes : List UInt8) (start : ℕ),
      bytes.foldl (fun value byte => 256 * value + byte.toNat) start =
        start * 256 ^ bytes.length + ofBytes bytes := by
    intro bytes
    induction bytes with
    | nil => simp
    | cons byte bytes inductionHypothesis =>
        intro start
        rw [ofBytes, List.foldl_cons, List.foldl_cons, inductionHypothesis,
          inductionHypothesis (256 * 0 + byte.toNat), List.length_cons]
        ring
  rw [ofBytes, List.foldl_cons, startingAt]
  simp

theorem ofBytes_lt (bytes : List UInt8) : ofBytes bytes < 256 ^ bytes.length := by
  induction bytes with
  | nil => simp
  | cons byte bytes inductionHypothesis =>
      have small : byte.toNat < 256 := byte.toNat_lt
      rw [ofBytes_cons, List.length_cons, pow_succ, Nat.mul_comm (256 ^ bytes.length)]
      calc byte.toNat * 256 ^ bytes.length + ofBytes bytes
          < byte.toNat * 256 ^ bytes.length + 256 ^ bytes.length := by omega
        _ = (byte.toNat + 1) * 256 ^ bytes.length := (Nat.succ_mul _ _).symm
        _ ≤ 256 * 256 ^ bytes.length := Nat.mul_le_mul_right _ small

theorem ofBytes_toBytes {width value : ℕ} (fits : value < 256 ^ width) :
    ofBytes (toBytes width value) = value := by
  induction width generalizing value with
  | zero =>
      rw [pow_zero, Nat.lt_one_iff] at fits
      rw [fits]
      rfl
  | succ width inductionHypothesis =>
      have positive : 0 < 256 ^ width := Nat.pow_pos (by norm_num)
      have high : value / 256 ^ width < 256 := by
        rw [Nat.div_lt_iff_lt_mul positive]
        rwa [pow_succ, Nat.mul_comm] at fits
      rw [toBytes, ofBytes_cons, length_toBytes, inductionHypothesis (Nat.mod_lt _ positive),
        UInt8.toNat_ofNat_of_lt' high, Nat.mul_comm, Nat.div_add_mod]

theorem toBytes_ofBytes (bytes : List UInt8) : toBytes bytes.length (ofBytes bytes) = bytes := by
  induction bytes with
  | nil => rfl
  | cons byte bytes inductionHypothesis =>
      have small := ofBytes_lt bytes
      have positive : 0 < 256 ^ bytes.length := Nat.pow_pos (by norm_num)
      rw [List.length_cons, toBytes, ofBytes_cons, Nat.mul_comm, Nat.mul_add_div positive,
        Nat.div_eq_of_lt small, Nat.mul_add_mod, Nat.mod_eq_of_lt small, inductionHypothesis,
        Nat.add_zero, UInt8.ofNat_toNat]

theorem toBytes_injective {width first second : ℕ} (firstFits : first < 256 ^ width)
    (secondFits : second < 256 ^ width) (same : toBytes width first = toBytes width second) :
    first = second := by
  rw [← ofBytes_toBytes firstFits, same, ofBytes_toBytes secondFits]

/-! ## Integers -/

/-- The content octets of an integer that is not negative. -/
def width (value : ℕ) : ℕ := value.size / 8 + 1

/-- A value fits below the sign bit of its content, and of no shorter one. -/
theorem width_minimal (value : ℕ) :
    value < 2 ^ (8 * width value - 1) ∧
      ∀ shorter, 0 < shorter → value < 2 ^ (8 * shorter - 1) → width value ≤ shorter := by
  unfold width
  constructor
  · apply Nat.size_le.mp
    omega
  · intro shorter positive fits
    have size := Nat.size_le.mpr fits
    omega

theorem fits_width (value : ℕ) : value < 256 ^ width value := by
  have size : (256 : ℕ) ^ width value = 2 ^ (8 * width value) := by
    rw [show (256 : ℕ) = 2 ^ 8 by norm_num, ← pow_mul]
  rw [size]
  exact (width_minimal value).1.trans_le (Nat.pow_le_pow_right (by norm_num) (Nat.sub_le _ _))

theorem width_le {value bits : ℕ} (small : value < 2 ^ bits) : width value ≤ bits / 8 + 1 := by
  have size := Nat.size_le.mpr small
  unfold width
  omega

/-- The length octets of a content: the short form, or the long one from 128 on. -/
def lengthOctets (length : ℕ) : List UInt8 :=
  if length < 128 then [UInt8.ofNat length]
  else
    UInt8.ofNat (128 + (length.size + 7) / 8) :: toBytes ((length.size + 7) / 8) length

/-- `INTEGER` -/
def integer (value : ℕ) : List UInt8 :=
  2 :: (lengthOctets (width value) ++ toBytes (width value) value)

/-- `SEQUENCE { INTEGER, INTEGER }` -/
def pair (first second : ℕ) : List UInt8 :=
  48 :: (lengthOctets (integer first ++ integer second).length ++
    (integer first ++ integer second))

section Short

variable {value first second : ℕ}

theorem width_of_short (short : value < 2 ^ 256) : width value ≤ 33 := width_le short

theorem integer_of_short (short : value < 2 ^ 256) :
    integer value = 2 :: UInt8.ofNat (width value) :: toBytes (width value) value := by
  have small := width_of_short short
  rw [integer, lengthOctets, if_pos (by omega)]
  rfl

theorem length_integer (short : value < 2 ^ 256) :
    (integer value).length = width value + 2 := by
  rw [integer_of_short short]
  simp

theorem pair_of_short (firstShort : first < 2 ^ 256) (secondShort : second < 2 ^ 256) :
    pair first second =
      48 :: UInt8.ofNat (width first + width second + 4) ::
        (integer first ++ integer second) := by
  have firstSmall := width_of_short firstShort
  have secondSmall := width_of_short secondShort
  have length : (integer first ++ integer second).length =
      width first + width second + 4 := by
    rw [List.length_append, length_integer firstShort, length_integer secondShort]
    omega
  rw [pair, length, lengthOctets, if_pos (by omega)]
  rfl

theorem length_pair (firstShort : first < 2 ^ 256) (secondShort : second < 2 ^ 256) :
    (pair first second).length = width first + width second + 6 := by
  rw [pair_of_short firstShort secondShort, List.length_cons, List.length_cons,
    List.length_append, length_integer firstShort, length_integer secondShort]
  omega

/-- An integer and what follows it are determined by the bytes. -/
theorem integer_append_injective {other : ℕ} {rest otherRest : List UInt8}
    (short : value < 2 ^ 256) (otherShort : other < 2 ^ 256)
    (same : integer value ++ rest = integer other ++ otherRest) :
    value = other ∧ rest = otherRest := by
  have small := width_of_short short
  have otherSmall := width_of_short otherShort
  rw [integer_of_short short, integer_of_short otherShort] at same
  simp only [List.cons_append, List.cons.injEq, true_and] at same
  obtain ⟨widths, contents⟩ := same
  have sameWidth : width value = width other := by
    have numbers := congrArg UInt8.toNat widths
    have fits : width value < UInt8.size := by
      change _ < 256
      omega
    have otherFits : width other < UInt8.size := by
      change _ < 256
      omega
    rwa [UInt8.toNat_ofNat_of_lt' fits, UInt8.toNat_ofNat_of_lt' otherFits] at numbers
  obtain ⟨content, sameRest⟩ := List.append_inj contents (by simp [sameWidth])
  rw [sameWidth] at content
  exact ⟨toBytes_injective (sameWidth ▸ fits_width value) (fits_width other) content, sameRest⟩

theorem pair_injective {otherFirst otherSecond : ℕ} (firstShort : first < 2 ^ 256)
    (secondShort : second < 2 ^ 256) (otherFirstShort : otherFirst < 2 ^ 256)
    (otherSecondShort : otherSecond < 2 ^ 256)
    (same : pair first second = pair otherFirst otherSecond) :
    first = otherFirst ∧ second = otherSecond := by
  rw [pair_of_short firstShort secondShort, pair_of_short otherFirstShort otherSecondShort,
    List.cons.injEq, List.cons.injEq] at same
  obtain ⟨sameFirst, behind⟩ := integer_append_injective firstShort otherFirstShort same.2.2
  rw [← List.append_nil (integer second), ← List.append_nil (integer otherSecond)] at behind
  exact ⟨sameFirst, (integer_append_injective secondShort otherSecondShort behind).1⟩

end Short

end RemoteUnlock.Library.BigEndian
