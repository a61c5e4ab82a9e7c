import RemoteUnlock.Common.SignedMessage
import RemoteUnlock.Library.Reading

/-!
# Internet addresses in text

`ipaddress.ip_address` takes many spellings of one address.  What it takes denotes the
unspecified address exactly if all its digits are zero (`isUnspecified_iff`).
-/

namespace RemoteUnlock.Common

open Python CodePoint Library

/-! ## Version 4 -/

def decimalDigit (point : CodePoint) : Option ℕ :=
  if 0x30 ≤ point.val ∧ point.val ≤ 0x39 then some (point.val - 0x30) else none

/-- `_parse_octet` -/
def parseOctet (octet : PyStr) : Option ℕ :=
  (octet.mapM decimalDigit).bind fun digits =>
    if octet = [] ∨ 3 < octet.length then none
    else if octet ≠ py "0" ∧ octet.head? = some (ofChar '0') then none
    else if 255 < ofDigits 10 digits then none
    else some (ofDigits 10 digits)

/-- `IPv4Address(text)` -/
def ipv4Address (text : PyStr) : Option ℕ :=
  if ofChar '/' ∈ text ∨ text = [] then none
  else if (text.splitOn (ofChar '.')).length ≠ 4 then none
  else ((text.splitOn (ofChar '.')).mapM parseOctet).map (ofDigits 256)

/-! ## Version 6 -/

/-- `_parse_hextet`; the empty text is no number. -/
def parseHextet (hextet : PyStr) : Option ℕ :=
  (hextet.mapM hexDigitValue).bind fun digits =>
    if 4 < hextet.length ∨ hextet = [] then none else some (ofDigits 16 digits)

/-- `'%x' % number` -/
def hexText (number : ℕ) : PyStr := ofText (Nat.toDigits 16 number)

/-- The parts, with two in hexadecimal in the place of an address of version 4. -/
def withoutSuffix (parts : List PyStr) : Option (List PyStr) :=
  match parts.getLast? with
  | none => some parts
  | some last =>
      if ofChar '.' ∈ last then
        (ipv4Address last).map fun value =>
          parts.dropLast ++ [hexText (value >>> 16 &&& 0xFFFF), hexText (value &&& 0xFFFF)]
      else some parts

/-- The parts in front of and behind `::`, and the number of zeros that it stands for. -/
structure Layout where
  high : List PyStr
  skipped : ℕ
  low : List PyStr

/-- Where there is nothing between two colons. -/
def skipIndexes (parts : List PyStr) : List ℕ :=
  (List.range' 1 (parts.length - 2)).filter fun index => parts[index]? = some []

/-- The number of parts in front of `::`, less an empty one at the start. -/
def highCount (parts : List PyStr) (skipIndex : ℕ) : ℕ :=
  if parts.head? = some [] then skipIndex - 1 else skipIndex

/-- The number of parts behind `::`, less an empty one at the end. -/
def lowCount (parts : List PyStr) (skipIndex : ℕ) : ℕ :=
  if parts.getLast? = some [] then parts.length - skipIndex - 2 else parts.length - skipIndex - 1

def layoutAround (parts : List PyStr) (skipIndex : ℕ) : Option Layout :=
  let high := highCount parts skipIndex
  let low := lowCount parts skipIndex
  if parts.head? = some [] ∧ high ≠ 0 then none
  else if parts.getLast? = some [] ∧ low ≠ 0 then none
  else if 8 < high + low + 1 then none
  else some ⟨parts.take high, 8 - (high + low), parts.drop (parts.length - low)⟩

def layout (parts : List PyStr) : Option Layout :=
  match skipIndexes parts with
  | [] =>
      if parts.length ≠ 8 ∨ parts.head? = some [] ∨ parts.getLast? = some [] then none
      else some ⟨parts, 0, []⟩
  | [skipIndex] => layoutAround parts skipIndex
  | _ => none

/-- The number that the parts denote. -/
def Layout.value (layout : Layout) : Option ℕ :=
  (layout.high.mapM parseHextet).bind fun high =>
    (layout.low.mapM parseHextet).map fun low =>
      low.foldl (fun value hextet => value <<< 16 ||| hextet)
        (high.foldl (fun value hextet => value <<< 16 ||| hextet) 0 <<< (16 * layout.skipped))

/-- `IPv6Address._ip_int_from_string` -/
def ipv6Value (text : PyStr) : Option ℕ :=
  if text = [] ∨ (text.splitOn (ofChar ':')).length < 3 then none
  else
    (withoutSuffix (text.splitOn (ofChar ':'))).bind fun parts =>
      if 9 < parts.length then none else (layout parts).bind Layout.value

/-- An address in front of its scope. -/
def beforeScope (text : PyStr) : PyStr := text.takeWhile (· ≠ ofChar '%')

/-- `_split_scope_id`, the scope of it. -/
def scopeId (text : PyStr) : Option (Option PyStr) :=
  if ofChar '%' ∈ text then
    let scope := (text.dropWhile (· ≠ ofChar '%')).tail
    if scope = [] ∨ ofChar '%' ∈ scope then none else some (some scope)
  else some none

inductive Address where
  | v4 (value : ℕ)
  | v6 (value : ℕ) (scopeId : Option PyStr)
  deriving DecidableEq

def ipv6Address (text : PyStr) : Option Address :=
  if ofChar '/' ∈ text then none
  else (scopeId text).bind fun scope => (ipv6Value (beforeScope text)).map (.v6 · scope)

/-- `ipaddress.ip_address(text)` -/
def ipAddress (text : PyStr) : Option Address :=
  ((ipv4Address text).map .v4).or (ipv6Address text)

/-- `is_unspecified` -/
def Address.isUnspecified : Address → Bool
  | .v4 value => value = 0
  | .v6 value _ => value = 0

/-- Nothing but zeros between dots and colons. -/
def OnlyZeros (text : PyStr) : Prop := ∀ point ∈ beforeScope text, point ∈ py "0.:"

instance (text : PyStr) : Decidable (OnlyZeros text) :=
  List.decidableBAll (· ∈ py "0.:") (beforeScope text)

/-! ## Zeros -/

theorem decimalDigit_zero (point : CodePoint) (value : ℕ)
    (read : decimalDigit point = some value) : value = 0 ↔ point = ofChar '0' := by
  unfold decimalDigit at read
  split at read
  next digit =>
    obtain rfl := Option.some.inj read
    rw [Fin.ext_iff]
    change _ ↔ point.val = 0x30
    omega
  · contradiction

theorem hexDigitValue_zero (point : CodePoint) (value : ℕ)
    (read : hexDigitValue point = some value) : value = 0 ↔ point = ofChar '0' := by
  rw [Fin.ext_iff]
  change _ ↔ point.val = 0x30
  unfold hexDigitValue at read
  split at read
  · obtain rfl := Option.some.inj read
    omega
  · split at read
    · obtain rfl := Option.some.inj read
      omega
    · split at read
      · obtain rfl := Option.some.inj read
        omega
      · contradiction

theorem parseOctet_eq_some {octet : PyStr} {value : ℕ} (parsed : parseOctet octet = some value) :
    ∃ digits, octet.mapM decimalDigit = some digits ∧ value = ofDigits 10 digits ∧
      value < 256 := by
  obtain ⟨digits, read, parsed⟩ := Option.bind_eq_some_iff.mp parsed
  split at parsed
  · contradiction
  · split at parsed
    · contradiction
    · split at parsed
      · contradiction
      next small =>
        obtain rfl := Option.some.inj parsed
        exact ⟨digits, read, rfl, by omega⟩

theorem parseOctet_zero (octet : PyStr) (value : ℕ) (parsed : parseOctet octet = some value) :
    value = 0 ↔ ∀ point ∈ octet, point = ofChar '0' := by
  obtain ⟨digits, read, rfl, _⟩ := parseOctet_eq_some parsed
  rw [ofDigits_eq_zero_iff (by decide), mapM_zero_iff decimalDigit_zero read]

theorem parseHextet_zero (hextet : PyStr) (value : ℕ)
    (parsed : parseHextet hextet = some value) :
    value = 0 ↔ ∀ point ∈ hextet, point = ofChar '0' := by
  obtain ⟨digits, read, parsed⟩ := Option.bind_eq_some_iff.mp parsed
  split at parsed
  · contradiction
  · obtain rfl := Option.some.inj parsed
    rw [ofDigits_eq_zero_iff (by decide), mapM_zero_iff hexDigitValue_zero read]

/-- No number of an address contains a dot. -/
theorem dot_notMem_hextet {hextet : PyStr} (parsed : (parseHextet hextet).isSome) :
    ofChar '.' ∉ hextet := by
  obtain ⟨value, parsed⟩ := Option.isSome_iff_exists.mp parsed
  obtain ⟨digits, read, _⟩ := Option.bind_eq_some_iff.mp parsed
  intro inside
  exact absurd (isSome_of_mapM read _ inside) (by decide)

/-! ## Version 4 -/

theorem ipv4Address_eq_some {text : PyStr} {value : ℕ} (parsed : ipv4Address text = some value) :
    ∃ octets, (text.splitOn (ofChar '.')).mapM parseOctet = some octets ∧
      (text.splitOn (ofChar '.')).length = 4 ∧ value = ofDigits 256 octets := by
  unfold ipv4Address at parsed
  split at parsed
  · contradiction
  · split at parsed
    · contradiction
    next four =>
      obtain ⟨octets, read, rfl⟩ := Option.map_eq_some_iff.mp parsed
      exact ⟨octets, read, not_not.mp four, rfl⟩

theorem ipv4Address_zero {text : PyStr} {value : ℕ} (parsed : ipv4Address text = some value) :
    value = 0 ↔ ∀ point ∈ text, point = ofChar '.' ∨ point = ofChar '0' := by
  obtain ⟨octets, read, _, rfl⟩ := ipv4Address_eq_some parsed
  rw [ofDigits_eq_zero_iff (by decide), mapM_zero_iff parseOctet_zero read]
  exact forall_mem_splitOn_iff (ofChar '.') text

theorem ipv4Address_lt {text : PyStr} {value : ℕ} (parsed : ipv4Address text = some value) :
    value < 2 ^ 32 := by
  obtain ⟨octets, read, four, rfl⟩ := ipv4Address_eq_some parsed
  have length : octets.length = 4 := by rw [← four, (forall₂_of_mapM read).length_eq]
  have bounded (octet : PyStr) (value : ℕ) (isOctet : parseOctet octet = some value) :
      value < 256 := by
    obtain ⟨_, _, _, small⟩ := parseOctet_eq_some isOctet
    exact small
  have below : ∀ octet ∈ octets, octet < 256 := forall_mem_of_mapM read bounded
  have bound := ofDigits_lt below
  rw [length] at bound
  exact bound

/-- Digits and dots are all there is. -/
theorem notMem_ipv4Address {text : PyStr} {value : ℕ} (parsed : ipv4Address text = some value)
    {point : CodePoint} (noDot : point ≠ ofChar '.') (noDigit : decimalDigit point = none) :
    point ∉ text := by
  obtain ⟨octets, read, _, _⟩ := ipv4Address_eq_some parsed
  have plain : ∀ part ∈ text.splitOn (ofChar '.'), ∀ other ∈ part, other ≠ point := by
    rintro part membership other inside rfl
    obtain ⟨octet, isOctet⟩ := Option.isSome_iff_exists.mp (isSome_of_mapM read part membership)
    obtain ⟨digits, isNumber, _⟩ := parseOctet_eq_some isOctet
    have isDigit := isSome_of_mapM isNumber other inside
    rw [noDigit] at isDigit
    contradiction
  intro inside
  rcases (forall_mem_splitOn_iff (ofChar '.') text).mp plain point inside with dot | other
  · exact noDot dot
  · exact other rfl

/-! ## Version 6 -/

theorem hexText_zero_iff (number : ℕ) :
    (∀ point ∈ hexText number, point = ofChar '0') ↔ number = 0 := by
  have zero : ofChar (Nat.digitChar 0) = ofChar '0' := rfl
  induction number using Nat.strong_induction_on with
  | _ number inductionHypothesis =>
      have digit (small : number % 16 < 16) :
          ofChar (Nat.digitChar (number % 16)) = ofChar '0' ↔ number % 16 = 0 := by
        rw [ofChar_injective.eq_iff, Nat.digitChar_eq_zero]
      by_cases single : number < 16
      · rw [hexText, Nat.toDigits_of_lt_base single, ofText_cons, ofText_nil,
          List.forall_mem_singleton, ofChar_injective.eq_iff, Nat.digitChar_eq_zero]
      · rw [hexText, Nat.toDigits_of_base_le (by decide) (by omega), ofText, List.map_append,
          List.forall_mem_append, List.map_singleton, List.forall_mem_singleton]
        have others := inductionHypothesis (number / 16) (by omega)
        rw [hexText, ofText] at others
        exact (and_congr others (digit (by omega))).trans (by omega)

/-- Both halves of an address of version 4 are zero exactly if it is. -/
theorem halves_zero_iff {value : ℕ} (small : value < 2 ^ 32) :
    value >>> 16 &&& 0xFFFF = 0 ∧ value &&& 0xFFFF = 0 ↔ value = 0 := by
  have low (number : ℕ) : number &&& 0xFFFF = number % 2 ^ 16 :=
    Nat.and_two_pow_sub_one_eq_mod number 16
  rw [low, low, Nat.shiftRight_eq_div_pow]
  omega

/-- A part is zero; the dots of a suffix may stand in it. -/
def ZeroPart (part : PyStr) : Prop := ∀ point ∈ part, point = ofChar '.' ∨ point = ofChar '0'

theorem zeroPart_iff {part : PyStr} (plain : ofChar '.' ∉ part) :
    ZeroPart part ↔ ∀ point ∈ part, point = ofChar '0' := by
  constructor
  · intro zero point inside
    rcases zero point inside with rfl | isZero
    · exact absurd inside plain
    · exact isZero
  · exact fun zero point inside => .inr (zero point inside)

theorem withoutSuffix_zero {parts others : List PyStr}
    (replaced : withoutSuffix parts = some others)
    (plain : ∀ part ∈ others, ofChar '.' ∉ part) :
    (∀ part ∈ others, ZeroPart part) ↔ ∀ part ∈ parts, ZeroPart part := by
  unfold withoutSuffix at replaced
  split at replaced
  · obtain rfl := Option.some.inj replaced
    exact Iff.rfl
  next last isLast =>
    split at replaced
    · obtain ⟨value, parsed, rfl⟩ := Option.map_eq_some_iff.mp replaced
      have split : parts = parts.dropLast ++ [last] := by
        obtain ⟨front, rfl⟩ := List.getLast?_eq_some_iff.mp isLast
        rw [List.dropLast_concat]
      have high := plain (hexText (value >>> 16 &&& 0xFFFF)) (by simp)
      have low := plain (hexText (value &&& 0xFFFF)) (by simp)
      have suffix : ZeroPart last ↔ ZeroPart (hexText (value >>> 16 &&& 0xFFFF)) ∧
          ZeroPart (hexText (value &&& 0xFFFF)) := by
        rw [zeroPart_iff high, zeroPart_iff low, hexText_zero_iff, hexText_zero_iff,
          halves_zero_iff (ipv4Address_lt parsed), ipv4Address_zero parsed]
        exact Iff.rfl
      conv_rhs => rw [split]
      rw [List.forall_mem_append, List.forall_mem_append, List.forall_mem_singleton, suffix,
        List.forall_mem_cons, List.forall_mem_singleton]
    · obtain rfl := Option.some.inj replaced
      exact Iff.rfl

/-- At either end, `::` takes in an empty part. -/
theorem layoutAround_eq_some {parts : List PyStr} {skipIndex : ℕ} {result : Layout}
    (inside : 1 ≤ skipIndex ∧ skipIndex < 1 + (parts.length - 2))
    (laidOut : layoutAround parts skipIndex = some result) :
    ∃ high low, result.high = parts.take high ∧ result.low = parts.drop (parts.length - low) ∧
      (high = skipIndex ∨ high = 0 ∧ skipIndex = 1 ∧ parts[0]? = some []) ∧
      (low = parts.length - skipIndex - 1 ∨
        low = 0 ∧ skipIndex = parts.length - 2 ∧ parts[parts.length - 1]? = some []) := by
  simp only [layoutAround] at laidOut
  split at laidOut
  · contradiction
  next start =>
    split at laidOut
    · contradiction
    next finish =>
      split at laidOut
      · contradiction
      · obtain rfl := Option.some.inj laidOut
        refine ⟨highCount parts skipIndex, lowCount parts skipIndex, rfl, rfl, ?_, ?_⟩
        · by_cases leading : parts.head? = some []
          · have none : highCount parts skipIndex = 0 :=
              not_not.mp fun some => start ⟨leading, some⟩
            have one : skipIndex - 1 = 0 := (if_pos leading).symm.trans none
            rw [List.head?_eq_getElem?] at leading
            exact .inr ⟨none, by omega, leading⟩
          · exact .inl (if_neg leading)
        · by_cases trailing : parts.getLast? = some []
          · have none : lowCount parts skipIndex = 0 :=
              not_not.mp fun some => finish ⟨trailing, some⟩
            have next : parts.length - skipIndex - 2 = 0 := (if_pos trailing).symm.trans none
            rw [List.getLast?_eq_getElem?] at trailing
            exact .inr ⟨none, by omega, trailing⟩
          · exact .inl (if_neg trailing)

/-- A part that stands neither in front of `::` nor behind it is empty. -/
theorem layoutAround_forall {parts : List PyStr} {skipIndex : ℕ} {result : Layout}
    (inside : 1 ≤ skipIndex ∧ skipIndex < 1 + (parts.length - 2))
    (skipped : parts[skipIndex]? = some []) (laidOut : layoutAround parts skipIndex = some result)
    {property : PyStr → Prop} (empty : property [])
    (inHigh : ∀ part ∈ result.high, property part) (inLow : ∀ part ∈ result.low, property part) :
    ∀ part ∈ parts, property part := by
  obtain ⟨high, low, isHigh, isLow, leading, trailing⟩ := layoutAround_eq_some inside laidOut
  intro part membership
  obtain ⟨index, found⟩ := List.mem_iff_getElem?.mp membership
  obtain ⟨bound, _⟩ := List.getElem?_eq_some_iff.mp found
  have isEmpty (hole : parts[index]? = some []) : property part := by
    obtain rfl := Option.some.inj (found.symm.trans hole)
    exact empty
  by_cases front : index < high
  · apply inHigh
    rw [isHigh]
    exact List.mem_of_getElem? ((List.getElem?_take_of_lt front).trans found)
  · by_cases behind : parts.length - low ≤ index
    · apply inLow
      rw [isLow]
      apply List.mem_of_getElem? (i := index - (parts.length - low))
      rw [List.getElem?_drop, Nat.add_sub_cancel' behind]
      exact found
    · rcases leading with atSkip | ⟨_, one, first⟩
      · rcases trailing with rest | ⟨_, next, last⟩
        · obtain rfl : index = skipIndex := by omega
          exact isEmpty skipped
        · by_cases isSkip : index = skipIndex
          · rw [isSkip] at isEmpty
            exact isEmpty skipped
          · obtain rfl : index = parts.length - 1 := by omega
            exact isEmpty last
      · by_cases isFirst : index = 0
        · rw [isFirst] at isEmpty
          exact isEmpty first
        · rcases trailing with rest | ⟨_, next, last⟩
          · obtain rfl : index = skipIndex := by omega
            exact isEmpty skipped
          · by_cases isSkip : index = skipIndex
            · rw [isSkip] at isEmpty
              exact isEmpty skipped
            · obtain rfl : index = parts.length - 1 := by omega
              exact isEmpty last

/-- The layout leaves out empty parts only. -/
theorem layout_forall {parts : List PyStr} {result : Layout} (laidOut : layout parts = some result)
    {property : PyStr → Prop} (empty : property [])
    (high : ∀ part ∈ result.high, property part) (low : ∀ part ∈ result.low, property part) :
    ∀ part ∈ parts, property part := by
  unfold layout at laidOut
  split at laidOut
  · split at laidOut
    · contradiction
    · obtain rfl := Option.some.inj laidOut
      exact high
  next skipIndex isSkip =>
    have member : skipIndex ∈ skipIndexes parts := by
      rw [isSkip]
      exact List.mem_singleton_self _
    obtain ⟨inRange, skipped⟩ := List.mem_filter.mp member
    rw [List.mem_range'_1] at inRange
    rw [decide_eq_true_eq] at skipped
    exact layoutAround_forall inRange skipped laidOut empty high low
  · contradiction

theorem layout_subset {parts : List PyStr} {result : Layout}
    (laidOut : layout parts = some result) :
    result.high ⊆ parts ∧ result.low ⊆ parts := by
  unfold layout at laidOut
  split at laidOut
  · split at laidOut
    · contradiction
    · obtain rfl := Option.some.inj laidOut
      exact ⟨List.Subset.refl _, List.nil_subset _⟩
  · simp only [layoutAround] at laidOut
    split at laidOut
    · contradiction
    · split at laidOut
      · contradiction
      · split at laidOut
        · contradiction
        · obtain rfl := Option.some.inj laidOut
          exact ⟨List.take_subset _ _, List.drop_subset _ _⟩
  · contradiction

/-- The parts of a layout are numbers, and it is zero exactly if they all are. -/
theorem Layout.value_zero {result : Layout} {value : ℕ} (parsed : result.value = some value) :
    (∀ part ∈ result.high ++ result.low, (parseHextet part).isSome) ∧
      (value = 0 ↔ ∀ part ∈ result.high ++ result.low, ∀ point ∈ part, point = ofChar '0') := by
  obtain ⟨high, isHigh, parsed⟩ := Option.bind_eq_some_iff.mp parsed
  obtain ⟨low, isLow, rfl⟩ := Option.map_eq_some_iff.mp parsed
  have zero (value digit : ℕ) : value <<< 16 ||| digit = 0 ↔ value = 0 ∧ digit = 0 := by
    rw [Nat.or_eq_zero_iff, Nat.shiftLeft_eq_zero_iff]
  constructor
  · exact List.forall_mem_append.mpr ⟨isSome_of_mapM isHigh, isSome_of_mapM isLow⟩
  · rw [foldl_eq_zero_iff zero, Nat.shiftLeft_eq_zero_iff, foldl_eq_zero_iff zero,
      mapM_zero_iff parseHextet_zero isHigh, mapM_zero_iff parseHextet_zero isLow,
      List.forall_mem_append]
    exact and_congr_left' (and_iff_right rfl)

theorem ipv6Value_zero {text : PyStr} {value : ℕ} (parsed : ipv6Value text = some value) :
    value = 0 ↔
      ∀ point ∈ text, point = ofChar ':' ∨ point = ofChar '.' ∨ point = ofChar '0' := by
  unfold ipv6Value at parsed
  split at parsed
  · contradiction
  · obtain ⟨parts, replaced, parsed⟩ := Option.bind_eq_some_iff.mp parsed
    split at parsed
    · contradiction
    · obtain ⟨result, laidOut, parsed⟩ := Option.bind_eq_some_iff.mp parsed
      obtain ⟨numbers, zero⟩ := Layout.value_zero parsed
      obtain ⟨highInside, lowInside⟩ := layout_subset laidOut
      rw [List.forall_mem_append] at numbers zero
      have plain : ∀ part ∈ parts, ofChar '.' ∉ part :=
        layout_forall laidOut List.not_mem_nil
          (fun part membership => dot_notMem_hextet (numbers.1 part membership))
          (fun part membership => dot_notMem_hextet (numbers.2 part membership))
      have allZero : (∀ part ∈ parts, ZeroPart part) ↔ value = 0 := by
        rw [zero]
        constructor
        · intro zeros
          exact ⟨fun part membership => (zeroPart_iff (plain part (highInside membership))).mp
              (zeros part (highInside membership)),
            fun part membership => (zeroPart_iff (plain part (lowInside membership))).mp
              (zeros part (lowInside membership))⟩
        · rintro ⟨highZeros, lowZeros⟩
          exact layout_forall laidOut (fun _ inside => absurd inside List.not_mem_nil)
            (fun part membership point inside => .inr (highZeros part membership point inside))
            (fun part membership point inside => .inr (lowZeros part membership point inside))
      rw [← allZero, withoutSuffix_zero replaced plain]
      exact forall_mem_splitOn_iff (ofChar ':') text

theorem beforeScope_of_notMem {text : PyStr} (plain : ofChar '%' ∉ text) :
    beforeScope text = text := by
  rw [beforeScope, List.takeWhile_eq_self_iff]
  rintro point inside
  rw [decide_eq_true_eq]
  rintro rfl
  exact plain inside

theorem mem_zeros_iff (point : CodePoint) :
    point ∈ py "0.:" ↔ point = ofChar ':' ∨ point = ofChar '.' ∨ point = ofChar '0' := by
  change point ∈ [ofChar '0', ofChar '.', ofChar ':'] ↔ _
  simp only [List.mem_cons, List.not_mem_nil, or_false]
  tauto

/-- An address is the unspecified one exactly if there are only zeros in its text. -/
theorem isUnspecified_iff {text : PyStr} {address : Address}
    (parsed : ipAddress text = some address) :
    address.isUnspecified = true ↔ OnlyZeros text := by
  rcases Option.or_eq_some_iff.mp parsed with isV4 | ⟨_, isV6⟩
  · obtain ⟨value, isValue, rfl⟩ := Option.map_eq_some_iff.mp isV4
    have noScope : ofChar '%' ∉ text := notMem_ipv4Address isValue (by decide) (by decide)
    have noColon : ofChar ':' ∉ text := notMem_ipv4Address isValue (by decide) (by decide)
    rw [Address.isUnspecified, decide_eq_true_eq, ipv4Address_zero isValue, OnlyZeros,
      beforeScope_of_notMem noScope]
    apply forall₂_congr
    intro point inside
    have other : point ≠ ofChar ':' := fun same => noColon (same ▸ inside)
    rw [mem_zeros_iff, or_iff_right other]
  · unfold ipv6Address at isV6
    split at isV6
    · contradiction
    · obtain ⟨scope, _, isV6⟩ := Option.bind_eq_some_iff.mp isV6
      obtain ⟨value, isValue, rfl⟩ := Option.map_eq_some_iff.mp isV6
      rw [Address.isUnspecified, decide_eq_true_eq, ipv6Value_zero isValue, OnlyZeros]
      exact forall₂_congr fun point _ => (mem_zeros_iff point).symm

end RemoteUnlock.Common
