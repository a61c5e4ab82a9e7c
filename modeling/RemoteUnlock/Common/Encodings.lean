import RemoteUnlock.Audit.Sha256
import RemoteUnlock.Common.SignedMessage
import RemoteUnlock.Library.BigEndian

/-!
# The two encodings of a signature

`sign` emits the DER encoding of a pair, a browser its 64 raw bytes, and `verifySig` tells
them apart by their length alone.  A DER encoding has 64 bytes where the contents of the
two integers have 58 between them; it is then taken for a raw pair.
-/

namespace RemoteUnlock.Common

open Python Library BigEndian

variable {Key : Type}

/-- The order of the group of P-256. -/
def order : ℕ := 0xFFFFFFFF00000000FFFFFFFFFFFFFFFFBCE6FAADA7179E84F3B9CAC2FC632551

/-- What is documented of the library: its encoder emits DER, and its verification is a
strict parser of DER in front of the check of the pair against the curve. -/
structure Ecdsa (crypto : Crypto Key) (valid : Key → Bytes → ℕ → ℕ → Prop) : Prop where
  inRange : ∀ {key message r s}, valid key message r s →
    (1 ≤ r ∧ r < order) ∧ 1 ≤ s ∧ s < order
  encodes : ∀ {r s}, r < 2 ^ 256 → s < 2 ^ 256 → crypto.encodeDss r s = pair r s
  verifies : ∀ {key sig message}, crypto.verify key sig message = true ↔
    ∃ r s, sig = pair r s ∧ valid key message r s

/-- The 64-byte form of a pair. -/
def raw (r s : ℕ) : Bytes := toBytes 32 r ++ toBytes 32 s

/-- `sig.hex()` -/
def hex (sig : Bytes) : PyStr := ofText (sig.flatMap Audit.hexByte)

/-! ## Hexadecimal text -/

theorem hexDigitValue_digitChar : ∀ digit, digit < 16 →
    isAsciiSpace (CodePoint.ofChar (Nat.digitChar digit)) = false ∧
      hexDigitValue (CodePoint.ofChar (Nat.digitChar digit)) = some digit := by
  decide

theorem fromHex_hex (sig : Bytes) : fromHex (hex sig) = some sig := by
  induction sig with
  | nil => rfl
  | cons byte sig inductionHypothesis =>
      have bound := byte.toNat_lt
      obtain ⟨noSpace, high⟩ := hexDigitValue_digitChar (byte.toNat / 16) (by omega)
      obtain ⟨_, low⟩ := hexDigitValue_digitChar (byte.toNat % 16) (by omega)
      have split : hex (byte :: sig) = CodePoint.ofChar (Nat.digitChar (byte.toNat / 16)) ::
          CodePoint.ofChar (Nat.digitChar (byte.toNat % 16)) :: hex sig := rfl
      rw [split, fromHex, if_neg (by simp [noSpace])]
      simp only [high, low, inductionHypothesis, Option.map_some, Nat.div_add_mod,
        UInt8.ofNat_toNat]

theorem length_hex (sig : Bytes) : (hex sig).length = 2 * sig.length := by
  induction sig with
  | nil => rfl
  | cons byte sig inductionHypothesis =>
      have more : (hex (byte :: sig)).length = (hex sig).length + 2 := rfl
      rw [more, inductionHypothesis, List.length_cons]
      ring

/-! ## Raw pairs -/

theorem order_lt : order < 2 ^ 256 := by decide

theorem lt_of_take {sig : Bytes} (length : sig.length = 64) :
    ofBytes (sig.take 32) < 2 ^ 256 ∧ ofBytes (sig.drop 32) < 2 ^ 256 := by
  have first := ofBytes_lt (sig.take 32)
  have second := ofBytes_lt (sig.drop 32)
  rw [List.length_take, length] at first
  rw [List.length_drop, length] at second
  exact ⟨first, second⟩

/-- Every 64 bytes are the raw form of some pair. -/
theorem eq_raw {sig : Bytes} (length : sig.length = 64) :
    sig = raw (ofBytes (sig.take 32)) (ofBytes (sig.drop 32)) := by
  have first := toBytes_ofBytes (sig.take 32)
  have second := toBytes_ofBytes (sig.drop 32)
  rw [List.length_take, length] at first
  rw [List.length_drop, length] at second
  calc sig = sig.take 32 ++ sig.drop 32 := (List.take_append_drop 32 sig).symm
    _ = raw (ofBytes (sig.take 32)) (ofBytes (sig.drop 32)) := by
        rw [raw]
        exact congrArg₂ _ first.symm second.symm

theorem length_raw (r s : ℕ) : (raw r s).length = 64 := by
  rw [raw, List.length_append, length_toBytes, length_toBytes]

theorem ofBytes_raw {r s : ℕ} (rShort : r < 2 ^ 256) (sShort : s < 2 ^ 256) :
    ofBytes ((raw r s).take 32) = r ∧ ofBytes ((raw r s).drop 32) = s := by
  have width : (toBytes 32 r).length = 32 := length_toBytes 32 r
  have bound : (256 : ℕ) ^ 32 = 2 ^ 256 := by norm_num
  rw [raw, List.take_left' width, List.drop_left' width]
  exact ⟨ofBytes_toBytes (bound ▸ rShort), ofBytes_toBytes (bound ▸ sShort)⟩

/-! ## What is accepted -/

section Accepted

variable {crypto : Crypto Key} {valid : Key → Bytes → ℕ → ℕ → Prop} {key : Key} {message : Bytes}

/-- What `verifySig` makes of a text that is read as some bytes. -/
theorem verifySig_of_fromHex {text : PyStr} {sig : Bytes} (short : text.length ≤ maxSigHex)
    (read : fromHex text = some sig) :
    verifySig crypto key message (some (.str text)) =
      if sig.length = 64 then
        crypto.verify key (crypto.encodeDss (ofBytes (sig.take 32)) (ofBytes (sig.drop 32)))
          message
      else crypto.verify key sig message := by
  rw [verifySig, if_neg (not_lt.mpr short), read]
  rfl

theorem Ecdsa.short (ecdsa : Ecdsa crypto valid) {r s : ℕ} (isValid : valid key message r s) :
    r < 2 ^ 256 ∧ s < 2 ^ 256 := by
  obtain ⟨⟨_, rSmall⟩, _, sSmall⟩ := ecdsa.inRange isValid
  exact ⟨rSmall.trans order_lt, sSmall.trans order_lt⟩

/-- 64 bytes are accepted exactly if they are the raw form of a valid pair. -/
theorem verify_raw_iff (ecdsa : Ecdsa crypto valid) {r s : ℕ} (rShort : r < 2 ^ 256)
    (sShort : s < 2 ^ 256) :
    crypto.verify key (crypto.encodeDss r s) message = true ↔ valid key message r s := by
  rw [ecdsa.encodes rShort sShort, ecdsa.verifies]
  constructor
  · rintro ⟨first, second, same, isValid⟩
    obtain ⟨firstShort, secondShort⟩ := ecdsa.short isValid
    obtain ⟨rfl, rfl⟩ := pair_injective rShort sShort firstShort secondShort same
    exact isValid
  · exact fun isValid => ⟨r, s, rfl, isValid⟩

/-- Both encodings of the pair are accepted, and the one is not taken for the other. -/
structure Understood (crypto : Crypto Key) (key : Key) (message : Bytes) (r s : ℕ) : Prop where
  der : verifySig crypto key message (some (.str (hex (pair r s)))) = true
  raw : verifySig crypto key message (some (.str (hex (raw r s)))) = true
  apart : ∀ first second, first < 2 ^ 256 → second < 2 ^ 256 → pair r s ≠ Common.raw first second

/-- The DER encoding of a pair has 64 bytes. -/
theorem length_pair_iff {r s : ℕ} (rShort : r < 2 ^ 256) (sShort : s < 2 ^ 256) :
    (pair r s).length = 64 ↔ r.size / 8 + s.size / 8 = 56 := by
  rw [length_pair rShort sShort, width, width]
  omega

theorem understood_iff (ecdsa : Ecdsa crypto valid) {r s : ℕ}
    (isValid : valid key message r s) :
    Understood crypto key message r s ↔ r.size / 8 + s.size / 8 ≠ 56 := by
  obtain ⟨rShort, sShort⟩ := ecdsa.short isValid
  rw [ne_eq, ← length_pair_iff rShort sShort]
  constructor
  · intro understood length
    obtain ⟨firstShort, secondShort⟩ := lt_of_take length
    exact understood.apart _ _ firstShort secondShort (eq_raw length)
  · intro other
    refine ⟨?_, ?_, ?_⟩
    · have short : (hex (pair r s)).length ≤ maxSigHex := by
        have rWidth := width_of_short rShort
        have sWidth := width_of_short sShort
        rw [length_hex, length_pair rShort sShort, maxSigHex]
        omega
      rw [verifySig_of_fromHex short (fromHex_hex _), if_neg other]
      exact ecdsa.verifies.mpr ⟨r, s, rfl, isValid⟩
    · have short : (hex (raw r s)).length ≤ maxSigHex := by
        rw [length_hex, length_raw]
        decide
      obtain ⟨first, second⟩ := ofBytes_raw rShort sShort
      rw [verifySig_of_fromHex short (fromHex_hex _), if_pos (length_raw r s), first, second]
      exact (verify_raw_iff ecdsa rShort sShort).mpr isValid
    · intro first second _ _ same
      rw [same] at other
      exact other (length_raw first second)

theorem encoded_of_accepted (ecdsa : Ecdsa crypto valid) {text : PyStr}
    (accepted : verifySig crypto key message (some (.str text)) = true) :
    ∃ r s, valid key message r s ∧
      (fromHex text = some (pair r s) ∨ fromHex text = some (raw r s)) := by
  have short : text.length ≤ maxSigHex := by
    by_contra long
    rw [verifySig, if_pos (not_le.mp long)] at accepted
    contradiction
  cases read : fromHex text with
  | none =>
      rw [verifySig, if_neg (not_lt.mpr short), read] at accepted
      contradiction
  | some sig =>
      rw [verifySig_of_fromHex short read] at accepted
      by_cases length : sig.length = 64
      · rw [if_pos length] at accepted
        obtain ⟨firstShort, secondShort⟩ := lt_of_take length
        exact ⟨_, _, (verify_raw_iff ecdsa firstShort secondShort).mp accepted,
          .inr (congrArg some (eq_raw length))⟩
      · rw [if_neg length] at accepted
        obtain ⟨r, s, rfl, isValid⟩ := ecdsa.verifies.mp accepted
        exact ⟨r, s, isValid, .inl rfl⟩

end Accepted

/-- A valid pair is understood in both encodings unless the contents of its two integers
have 58 bytes between them; and only encodings of valid pairs are accepted. -/
theorem encodings_understood {crypto : Crypto Key} {valid : Key → Bytes → ℕ → ℕ → Prop}
    (ecdsa : Ecdsa crypto valid) (key : Key) (message : Bytes) :
    (∀ r s, valid key message r s →
      (Understood crypto key message r s ↔ r.size / 8 + s.size / 8 ≠ 56)) ∧
    ∀ text, verifySig crypto key message (some (.str text)) = true →
      ∃ r s, valid key message r s ∧
        (fromHex text = some (pair r s) ∨ fromHex text = some (raw r s)) :=
  ⟨fun _ _ isValid => understood_iff ecdsa isValid,
    fun _ accepted => encoded_of_accepted ecdsa accepted⟩

/-- A library for which one pair is valid. -/
def onePair (r s : ℕ) : Crypto Unit where
  loadPem _ := .ok ()
  b64decode _ := .error .valueError
  loadDer _ := .ok ()
  isP256 _ := true
  encodeDss := pair
  verify _ sig _ := sig = pair r s

theorem ecdsa_onePair {r s : ℕ} (rRange : 1 ≤ r ∧ r < order) (sRange : 1 ≤ s ∧ s < order) :
    Ecdsa (onePair r s) fun _ _ first second => first = r ∧ second = s where
  inRange := by
    rintro _ _ _ _ ⟨rfl, rfl⟩
    exact ⟨rRange, sRange⟩
  encodes _ _ := rfl
  verifies := by simp [onePair]

theorem understood_five_seven : Understood (onePair 5 7) () [] 5 7 :=
  ((encodings_understood (ecdsa_onePair (by decide) (by decide)) () []).1 5 7 ⟨rfl, rfl⟩).mpr
    (by decide +kernel)

/-- A pair with a short second number, and a first one that is the coordinate of a point of
the curve: its DER encoding is taken for a raw pair. -/
theorem not_understood :
    Ecdsa (onePair (2 ^ 247 + 1) (2 ^ 200)) (fun _ _ r s => r = 2 ^ 247 + 1 ∧ s = 2 ^ 200) ∧
      verifySig (onePair (2 ^ 247 + 1) (2 ^ 200)) () []
        (some (.str (hex (pair (2 ^ 247 + 1) (2 ^ 200))))) = false ∧
      ¬Understood (onePair (2 ^ 247 + 1) (2 ^ 200)) () [] (2 ^ 247 + 1) (2 ^ 200) := by
  have refused : verifySig (onePair (2 ^ 247 + 1) (2 ^ 200)) () []
      (some (.str (hex (pair (2 ^ 247 + 1) (2 ^ 200))))) = false := by
    decide +kernel
  refine ⟨ecdsa_onePair (by decide) (by decide), refused, fun understood => ?_⟩
  rw [understood.der] at refused
  contradiction

end RemoteUnlock.Common
