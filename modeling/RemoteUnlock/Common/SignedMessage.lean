import Mathlib.Data.Bool.AllAny
import RemoteUnlock.Python.Exec
import RemoteUnlock.Python.JsonRoundTrip
import RemoteUnlock.Python.TextFile

/-!
# Signed messages

`signedMessage` joins its fields with bars after checking them, so the bytes
determine the fields (`signedMessage_injective`): no checked field contains a bar.
The checks are those of the patterns, whose `$` also matches in front of a final
newline.
-/

namespace RemoteUnlock.Common

open Python

/-! ## Patterns -/

def isLowerHex (point : CodePoint) : Bool :=
  (0x30 ≤ point.val && point.val ≤ 0x39) || (0x61 ≤ point.val && point.val ≤ 0x66)

def isIdStart (point : CodePoint) : Bool :=
  (0x61 ≤ point.val && point.val ≤ 0x7A) || (0x30 ≤ point.val && point.val ≤ 0x39)

def isIdPart (point : CodePoint) : Bool := isIdStart point || point.val = 0x2D

/-- The text in front of `$`: a final newline may follow it. -/
def beforeEnd (text : PyStr) : PyStr :=
  if text.getLast? = some (CodePoint.ofNat 0x0A) then text.dropLast else text

/-- `NONCE_RE.match(text)` -/
def nonceMatches (text : PyStr) : Bool :=
  (beforeEnd text).length = 32 && (beforeEnd text).all isLowerHex

/-- `ID_RE.match(text)` -/
def idMatches (text : PyStr) : Bool :=
  match beforeEnd text with
  | [] => false
  | first :: rest => isIdStart first && rest.length ≤ 62 && rest.all isIdPart

/-! ## The message -/

/-- `PROTO` -/
def proto : PyStr := py "remote-unlock/v2"

/-- The parts of the message between its bars. -/
def messageFields (role nonce : PyStr) (issuedMs : ℤ) (deviceId targetId : PyStr) :
    List PyStr :=
  [proto, role, nonce, ofText (intText issuedMs), deviceId, targetId, py "unlock"]

/-- `text.encode()` of a string value; a surrogate has no encoding. -/
def encodeStr (text : PyStr) : Except PyExc Bytes :=
  if text.all fun point => point.val < 0xD800 || 0xE000 ≤ point.val then
    .ok (encode (text.map fun point => Char.ofNat point.val))
  else .error ⟨.value, "UnicodeEncodeError".toList⟩

theorem map_ofText (text : Text) :
    (ofText text).map (fun point => Char.ofNat point.val) = text := by
  rw [ofText, List.map_map]
  exact (List.map_congr_left fun character _ => Char.ofNat_toNat character).trans
    (List.map_id text)

/-- What is made of scalar values has an encoding. -/
theorem encodeStr_ofText (text : Text) : encodeStr (ofText text) = .ok (encode text) := by
  have valid : (ofText text).all
      (fun point => point.val < 0xD800 || 0xE000 ≤ point.val) = true := by
    rw [List.all_eq_true]
    intro point membership
    obtain ⟨character, _, rfl⟩ := List.mem_map.mp membership
    have scalar := character.valid
    simp only [CodePoint.val_ofChar, Bool.or_eq_true]
    rcases scalar with small | ⟨large, _⟩
    · exact .inl (decide_eq_true small)
    · exact .inr (decide_eq_true large)
  rw [encodeStr, if_pos valid, map_ofText]

/-- What has an encoding is made of scalar values. -/
theorem encodeStr_eq_ok_iff {text : PyStr} {encoded : Bytes} :
    encodeStr text = .ok encoded ↔ ∃ source, text = ofText source ∧ encoded = encode source := by
  constructor
  · intro made
    unfold encodeStr at made
    split_ifs at made with scalar
    refine ⟨text.map fun point => Char.ofNat point.val, ?_, (Except.ok.inj made).symm⟩
    rw [ofText, List.map_map]
    refine ((List.map_congr_left fun point membership => ?_).trans (List.map_id text)).symm
    have isScalar := List.all_eq_true.mp scalar point membership
    have valid : point.val.isValidChar := by
      have bound := point.isLt
      simp only [Bool.or_eq_true, decide_eq_true_eq] at isScalar
      rw [Nat.isValidChar]
      omega
    apply Fin.ext
    rw [Function.comp_apply, CodePoint.val_ofChar, Char.ofNat, dif_pos valid]
    rfl
  · rintro ⟨source, rfl, rfl⟩
    exact encodeStr_ofText source

/-- `signed_message(role, nonce, issued_ms, device_id, target_id)` of a time that is still to be
converted by `int`. -/
def signedMessageOf {Argument : Type*} (int : Argument → Except PyExc ℤ) (role nonce : PyStr)
    (issuedMs : Argument) (deviceId targetId : PyStr) : Except PyExc Bytes :=
  if role ≠ py "challenge" ∧ role ≠ py "response" then .error .valueError
  else if nonceMatches nonce = false then .error .valueError
  else if idMatches deviceId = false ∨ idMatches targetId = false then .error .valueError
  else do
    let milliseconds ← int issuedMs
    encodeStr (List.intercalate (py "|") (messageFields role nonce milliseconds deviceId targetId))

/-- `signed_message` of an integer. -/
def signedMessage (role nonce : PyStr) (issuedMs : ℤ) (deviceId targetId : PyStr) :
    Except PyExc Bytes :=
  signedMessageOf .ok role nonce issuedMs deviceId targetId

/-! ## The bytes determine the fields -/

def bar : CodePoint := CodePoint.ofChar '|'

/-- A field of the message: ASCII without a bar. -/
def Plain (text : PyStr) : Prop := ∀ point ∈ text, point.val < 0x80 ∧ point ≠ bar

theorem plain_ofText {text : Text}
    (plain : ∀ character ∈ text, character.toNat < 0x80 ∧ character ≠ '|') :
    Plain (ofText text) := by
  intro point membership
  rcases List.mem_map.mp membership with ⟨character, inText, rfl⟩
  rcases plain character inText with ⟨ascii, other⟩
  exact ⟨by rwa [CodePoint.val_ofChar], fun same => other (CodePoint.ofChar_injective same)⟩

theorem mem_beforeEnd {text : PyStr} {point : CodePoint} (membership : point ∈ text) :
    point ∈ beforeEnd text ∨ point = CodePoint.ofNat 0x0A := by
  unfold beforeEnd
  split
  next last =>
    rcases List.eq_nil_or_concat text with rfl | ⟨front, final, rfl⟩
    · contradiction
    · simp only [List.concat_eq_append, List.getLast?_append, List.getLast?_singleton,
        Option.some_or, Option.some.injEq] at last
      simpa [last] using membership
  · exact .inl membership

theorem plain_newline : CodePoint.ofNat 0x0A ≠ bar := by decide

theorem plain_of_nonceMatches {nonce : PyStr} (accepted : nonceMatches nonce = true) :
    Plain nonce := by
  simp only [nonceMatches, Bool.and_eq_true, decide_eq_true_eq, List.all_eq_true] at accepted
  intro point membership
  rcases mem_beforeEnd membership with inFront | rfl
  · have hex := accepted.2 point inFront
    simp only [isLowerHex, Bool.or_eq_true, Bool.and_eq_true, decide_eq_true_eq] at hex
    refine ⟨by omega, ?_⟩
    rintro rfl
    revert hex
    decide
  · exact ⟨by decide, plain_newline⟩

theorem plain_of_idMatches {identifier : PyStr} (accepted : idMatches identifier = true) :
    Plain identifier := by
  intro point membership
  rcases mem_beforeEnd membership with inFront | rfl
  · unfold idMatches at accepted
    split at accepted
    · contradiction
    next first rest front =>
      simp only [Bool.and_eq_true, decide_eq_true_eq, List.all_eq_true] at accepted
      have part : isIdPart point = true := by
        rw [front] at inFront
        rcases List.mem_cons.mp inFront with rfl | inRest
        · simp [isIdPart, accepted.1.1]
        · exact accepted.2 point inRest
      simp only [isIdPart, isIdStart, Bool.or_eq_true, Bool.and_eq_true, decide_eq_true_eq]
        at part
      refine ⟨by omega, ?_⟩
      rintro rfl
      revert part
      decide
  · exact ⟨by decide, plain_newline⟩

theorem joinPairs_of_plain {text : PyStr} (plain : Plain text) : PyStr.joinPairs text = text := by
  apply PyStr.joinPairs_of_unpaired
  induction text with
  | nil => trivial
  | cons point rest inductionHypothesis =>
      have small := (plain point List.mem_cons_self).1
      apply PyStr.unpaired_cons_of_not_isHigh
      · rw [CodePoint.isHigh_eq_false_iff]
        omega
      · exact inductionHypothesis fun other membership =>
          plain other (List.mem_cons_of_mem _ membership)

theorem plain_intText (number : ℤ) : Plain (ofText (intText number)) := by
  apply plain_ofText
  intro character inText
  have bound := (printable_intText number character inText).2
  refine ⟨by omega, ?_⟩
  rintro rfl
  have digitOrSign : '|'.isDigit = true ∨ '|' = '-' := by
    unfold intText at inText
    split at inText
    · rcases List.mem_cons.mp inText with sign | inDigits
      · exact .inr sign
      · exact .inl (natText_isDigit _ '|' inDigits)
    · exact .inl (natText_isDigit _ '|' inText)
  revert digitOrSign
  decide

theorem intText_injective : Function.Injective intText := by
  intro first second same
  have firstRead := Json.ofDecimal_intToken first
  have secondRead := Json.ofDecimal_intToken second
  have firstScanned := Decimal.scan_text_append (intToken_wellFormed first)
    Decimal.delimited_nil
  have secondScanned := Decimal.scan_text_append (intToken_wellFormed second)
    Decimal.delimited_nil
  rw [intToken_text, same, ← intToken_text, secondScanned] at firstScanned
  have tokens : intToken second = intToken first := by simpa using firstScanned
  rw [← tokens, secondRead] at firstRead
  exact (Json.int.inj firstRead).symm

/-- A role, a nonce and two identifiers that pass the checks make plain fields. -/
theorem plain_fields {role nonce : PyStr} {deviceId targetId : PyStr}
    (isRole : role = py "challenge" ∨ role = py "response") (isNonce : nonceMatches nonce = true)
    (isDevice : idMatches deviceId = true) (isTarget : idMatches targetId = true)
    (issuedMs : ℤ) :
    ∀ field ∈ messageFields role nonce issuedMs deviceId targetId, Plain field := by
  have rolePlain : Plain role := by
    rcases isRole with rfl | rfl <;> exact plain_ofText (List.all_iff_forall_prop.mp (by decide))
  have protoPlain : Plain proto := plain_ofText (List.all_iff_forall_prop.mp (by decide))
  have unlockPlain : Plain (py "unlock") := plain_ofText (List.all_iff_forall_prop.mp (by decide))
  simp only [messageFields, List.forall_mem_cons]
  exact ⟨protoPlain, rolePlain, plain_of_nonceMatches isNonce, plain_intText issuedMs,
    plain_of_idMatches isDevice, plain_of_idMatches isTarget, unlockPlain, by simp⟩

/-- What an accepted message was made of passed the checks. -/
theorem signedMessage_checked {role nonce : PyStr} {issuedMs : ℤ} {deviceId targetId : PyStr}
    {message : Bytes} (signed : signedMessage role nonce issuedMs deviceId targetId = .ok message) :
    (role = py "challenge" ∨ role = py "response") ∧ nonceMatches nonce = true ∧
      idMatches deviceId = true ∧ idMatches targetId = true := by
  unfold signedMessage signedMessageOf at signed
  split_ifs at signed with badRole badNonce badId
  rw [not_and_or, not_not, not_not] at badRole
  rw [not_or, Bool.not_eq_false, Bool.not_eq_false] at badId
  exact ⟨badRole, Bool.eq_true_of_not_eq_false badNonce, badId⟩

/-- The fields of an accepted message are plain. -/
theorem plain_messageFields {role nonce : PyStr} {issuedMs : ℤ} {deviceId targetId : PyStr}
    {message : Bytes} (signed : signedMessage role nonce issuedMs deviceId targetId = .ok message) :
    ∀ field ∈ messageFields role nonce issuedMs deviceId targetId, Plain field := by
  obtain ⟨isRole, isNonce, isDevice, isTarget⟩ := signedMessage_checked signed
  exact plain_fields isRole isNonce isDevice isTarget issuedMs

theorem signedMessage_eq_ok {role nonce : PyStr} {issuedMs : ℤ} {deviceId targetId : PyStr}
    {message : Bytes} (signed : signedMessage role nonce issuedMs deviceId targetId = .ok message) :
    encodeStr (List.intercalate [bar] (messageFields role nonce issuedMs deviceId targetId)) =
      .ok message := by
  unfold signedMessage signedMessageOf at signed
  split_ifs at signed
  exact signed

theorem mem_intercalate_bar {fields : List PyStr} {point : CodePoint}
    (membership : point ∈ List.intercalate [bar] fields) :
    point = bar ∨ ∃ field ∈ fields, point ∈ field := by
  induction fields with
  | nil => simp at membership
  | cons field fields inductionHypothesis =>
      cases fields with
      | nil => exact .inr ⟨field, by simp, by simpa using membership⟩
      | cons next fields =>
          rw [List.intercalate_cons_cons, List.append_assoc] at membership
          rcases List.mem_append.mp membership with here | behind
          · exact .inr ⟨field, by simp, here⟩
          · rcases List.mem_append.mp behind with separator | later
            · exact .inl (List.mem_singleton.mp separator)
            · rcases inductionHypothesis later with isBar | ⟨other, inFields, inOther⟩
              · exact .inl isBar
              · exact .inr ⟨other, List.mem_cons_of_mem _ inFields, inOther⟩

theorem ascii_of_plain {fields : List PyStr} (plain : ∀ field ∈ fields, Plain field) :
    ∀ point ∈ List.intercalate [bar] fields, point.val < 0x80 := by
  intro point membership
  rcases mem_intercalate_bar membership with rfl | ⟨field, inFields, inField⟩
  · decide
  · exact (plain field inFields point inField).1

/-- A message is made of whatever passes the checks. -/
theorem signedMessage_isOk_iff {role nonce : PyStr} {issuedMs : ℤ} {deviceId targetId : PyStr} :
    (∃ message, signedMessage role nonce issuedMs deviceId targetId = .ok message) ↔
      (role = py "challenge" ∨ role = py "response") ∧ nonceMatches nonce = true ∧
        idMatches deviceId = true ∧ idMatches targetId = true := by
  constructor
  · rintro ⟨message, signed⟩
    exact signedMessage_checked signed
  · rintro ⟨isRole, isNonce, isDevice, isTarget⟩
    have ascii := ascii_of_plain (plain_fields isRole isNonce isDevice isTarget issuedMs)
    have encodes : (List.intercalate [bar]
        (messageFields role nonce issuedMs deviceId targetId)).all
          (fun point => point.val < 0xD800 || 0xE000 ≤ point.val) = true := by
      rw [List.all_eq_true]
      intro point membership
      have small := ascii point membership
      simp only [Bool.or_eq_true, decide_eq_true_eq]
      omega
    unfold signedMessage signedMessageOf
    rw [if_neg (by tauto), if_neg (by simp [isNonce]), if_neg (by simp [isDevice, isTarget])]
    change ∃ message, encodeStr (List.intercalate [bar] _) = .ok message
    rw [encodeStr, if_pos encodes]
    exact ⟨_, rfl⟩

/-- ASCII texts with the same encoding are the same. -/
theorem encodeStr_injective_of_ascii {first second : PyStr} {message : Bytes}
    (firstAscii : ∀ point ∈ first, point.val < 0x80)
    (secondAscii : ∀ point ∈ second, point.val < 0x80)
    (firstEncoded : encodeStr first = .ok message)
    (secondEncoded : encodeStr second = .ok message) : first = second := by
  have encoded : ∀ text : PyStr, (∀ point ∈ text, point.val < 0x80) →
      encodeStr text = .ok message →
      encode (text.map fun point => Char.ofNat point.val) = message := by
    intro text _ success
    unfold encodeStr at success
    split_ifs at success
    exact Except.ok.inj success
  have restore : ∀ text : PyStr, (∀ point ∈ text, point.val < 0x80) →
      ofText (text.map fun point => Char.ofNat point.val) = text := by
    intro text small
    rw [ofText, List.map_map]
    conv_rhs => rw [← List.map_id text]
    apply List.map_congr_left
    intro point membership
    have bound := small point membership
    exact ofChar_ofNat (by omega)
  have same := encode_injective
    ((encoded first firstAscii firstEncoded).trans (encoded second secondAscii secondEncoded).symm)
  rw [← restore first firstAscii, same, restore second secondAscii]

/-- The signed bytes determine what was signed. -/
theorem signedMessage_injective {role nonce : PyStr} {issuedMs : ℤ} {deviceId targetId : PyStr}
    {otherRole otherNonce : PyStr} {otherMs : ℤ} {otherDevice otherTarget : PyStr}
    {message : Bytes} (first : signedMessage role nonce issuedMs deviceId targetId = .ok message)
    (second : signedMessage otherRole otherNonce otherMs otherDevice otherTarget = .ok message) :
    role = otherRole ∧ nonce = otherNonce ∧ issuedMs = otherMs ∧ deviceId = otherDevice ∧
      targetId = otherTarget := by
  have firstPlain := plain_messageFields first
  have secondPlain := plain_messageFields second
  have texts := encodeStr_injective_of_ascii (ascii_of_plain firstPlain)
    (ascii_of_plain secondPlain) (signedMessage_eq_ok first) (signedMessage_eq_ok second)
  have split : ∀ fields : List PyStr, fields ≠ [] → (∀ field ∈ fields, Plain field) →
      (List.intercalate [bar] fields).splitOn bar = fields := by
    intro fields nonempty plain
    apply List.splitOn_intercalate
    · exact fun field membership inField => (plain field membership bar inField).2 rfl
    · exact nonempty
  have fields : messageFields role nonce issuedMs deviceId targetId =
      messageFields otherRole otherNonce otherMs otherDevice otherTarget := by
    rw [← split _ (by simp [messageFields]) firstPlain, texts,
      split _ (by simp [messageFields]) secondPlain]
  simp only [messageFields, List.cons.injEq, true_and, and_true] at fields
  exact ⟨fields.1, fields.2.1, intText_injective (ofText_injective fields.2.2.1),
    fields.2.2.2.1, fields.2.2.2.2⟩

theorem signedMessageOf_converted {Argument : Type*} {int : Argument → Except PyExc ℤ}
    {issuedMs : Argument} {milliseconds : ℤ} (converted : int issuedMs = .ok milliseconds)
    (role nonce deviceId targetId : PyStr) :
    signedMessageOf int role nonce issuedMs deviceId targetId =
      signedMessage role nonce milliseconds deviceId targetId := by
  rw [signedMessage, signedMessageOf, converted]
  rfl

theorem signedMessageOf_eq_ok {Argument : Type*} {int : Argument → Except PyExc ℤ}
    {role nonce : PyStr} {issuedMs : Argument} {deviceId targetId : PyStr} {message : Bytes}
    (signed : signedMessageOf int role nonce issuedMs deviceId targetId = .ok message) :
    ∃ milliseconds, int issuedMs = .ok milliseconds ∧
      signedMessage role nonce milliseconds deviceId targetId = .ok message := by
  cases converted : int issuedMs with
  | error exc =>
      unfold signedMessageOf at signed
      split_ifs at signed
      simp [converted, bind, Except.bind] at signed
  | ok milliseconds =>
      rw [signedMessageOf_converted converted] at signed
      exact ⟨milliseconds, rfl, signed⟩

/-- The signed bytes determine their meaning, whatever `int` converts; so a challenge
never reads as a response. -/
theorem signed_bytes_determine_meaning {Argument : Type*} (int : Argument → Except PyExc ℤ)
    {role nonce : PyStr} {issuedMs : Argument} {deviceId targetId : PyStr}
    {otherRole otherNonce : PyStr} {otherMs : Argument} {otherDevice otherTarget : PyStr}
    {message : Bytes}
    (first : signedMessageOf int role nonce issuedMs deviceId targetId = .ok message)
    (second : signedMessageOf int otherRole otherNonce otherMs otherDevice otherTarget =
      .ok message) :
    role = otherRole ∧ nonce = otherNonce ∧ int issuedMs = int otherMs ∧
      deviceId = otherDevice ∧ targetId = otherTarget ∧
      ¬(role = py "challenge" ∧ otherRole = py "response") := by
  obtain ⟨milliseconds, converted, signed⟩ := signedMessageOf_eq_ok first
  obtain ⟨otherMilliseconds, otherConverted, otherSigned⟩ := signedMessageOf_eq_ok second
  obtain ⟨sameRole, sameNonce, sameMs, sameDevice, sameTarget⟩ :=
    signedMessage_injective signed otherSigned
  refine ⟨sameRole, sameNonce, ?_, sameDevice, sameTarget, ?_⟩
  · rw [converted, otherConverted, sameMs]
  · rintro ⟨isChallenge, isResponse⟩
    have clash : py "challenge" = py "response" := by rw [← isChallenge, sameRole, isResponse]
    revert clash
    decide

/-- Two challenges that differ in their time have no common bytes. -/
theorem signed_bytes_of_two_times :
    ∃ message, signedMessageOf Except.ok (py "challenge")
        (py "00112233445566778899aabbccddeeff") (5 : ℤ) (py "phone1") (py "laptop") =
          .ok message ∧
      signedMessageOf Except.ok (py "challenge")
        (py "00112233445566778899aabbccddeeff") (-5 : ℤ) (py "phone1") (py "laptop") ≠
          .ok message := by
  obtain ⟨message, signed⟩ : ∃ message, signedMessage (py "challenge")
      (py "00112233445566778899aabbccddeeff") 5 (py "phone1") (py "laptop") = .ok message :=
    signedMessage_isOk_iff.mpr ⟨.inl rfl,
      (by decide : nonceMatches (py "00112233445566778899aabbccddeeff") = true),
      (by decide : idMatches (py "phone1") = true), (by decide : idMatches (py "laptop") = true)⟩
  refine ⟨message, signed, fun otherSigned => ?_⟩
  have made : signedMessageOf Except.ok (py "challenge") (py "00112233445566778899aabbccddeeff")
      (5 : ℤ) (py "phone1") (py "laptop") = .ok message := signed
  have same := (signed_bytes_determine_meaning Except.ok made otherSigned).2.2.1
  exact absurd (Except.ok.inj same) (by decide)

/-! ## Signatures -/

/-- What the cryptographic library does with keys and signatures. -/
structure Crypto (Key : Type) where
  loadPem : Bytes → Except PyExc Key
  b64decode : PyStr → Except PyExc Bytes
  loadDer : Bytes → Except PyExc Key
  /-- An elliptic-curve key on `secp256r1`. -/
  isP256 : Key → Bool
  /-- `encode_dss_signature(r, s)` -/
  encodeDss : ℕ → ℕ → Bytes
  /-- `public_key.verify(sig, message, ECDSA(SHA256()))` does not raise. -/
  verify : Key → Bytes → Bytes → Bool

/-- `MAX_SIG_HEX` -/
def maxSigHex : ℕ := 200

def hexDigitValue (point : CodePoint) : Option ℕ :=
  if 0x30 ≤ point.val ∧ point.val ≤ 0x39 then some (point.val - 0x30)
  else if 0x61 ≤ point.val ∧ point.val ≤ 0x66 then some (point.val - 0x57)
  else if 0x41 ≤ point.val ∧ point.val ≤ 0x46 then some (point.val - 0x37)
  else none

def isAsciiSpace (point : CodePoint) : Bool :=
  point.val = 0x20 || (0x09 ≤ point.val && point.val ≤ 0x0D)

/-- `bytes.fromhex(text)`; white space may stand between two bytes. -/
def fromHex : PyStr → Option Bytes
  | [] => some []
  | first :: rest =>
      if isAsciiSpace first then fromHex rest
      else
        match rest with
        | [] => none
        | second :: rest =>
            match hexDigitValue first, hexDigitValue second with
            | some high, some low =>
                (fromHex rest).map fun bytes => UInt8.ofNat (16 * high + low) :: bytes
            | _, _ => none

/-- `int.from_bytes(data, "big")` -/
def fromBytesBig (data : Bytes) : ℕ := data.foldl (fun value byte => 256 * value + byte.toNat) 0

variable {Key : Type}

/-- `verify_sig(public_key, message, sig_hex)` -/
def verifySig (crypto : Crypto Key) (publicKey : Key) (message : Bytes) (sigHex : Option Json) :
    Bool :=
  match sigHex with
  | some (.str text) =>
      if maxSigHex < text.length then false
      else
        match fromHex text with
        | none => false
        | some sig =>
            if sig.length = 64 then
              crypto.verify publicKey
                (crypto.encodeDss (fromBytesBig (sig.take 32)) (fromBytesBig (sig.drop 32))) message
            else crypto.verify publicKey sig message
  | _ => false

def isSpacePoint (point : CodePoint) : Bool :=
  (0x09 ≤ point.val && point.val ≤ 0x0D) || (0x1C ≤ point.val && point.val ≤ 0x20) ||
    point.val = 0x85 || point.val = 0xA0 || point.val = 0x1680 ||
    (0x2000 ≤ point.val && point.val ≤ 0x200A) || point.val = 0x2028 || point.val = 0x2029 ||
    point.val = 0x202F || point.val = 0x205F || point.val = 0x3000

/-- `text.strip()` -/
def strip (text : PyStr) : PyStr :=
  ((text.dropWhile isSpacePoint).reverse.dropWhile isSpacePoint).reverse

/-- `load_public_key(text)` -/
def loadPublicKey (crypto : Crypto Key) (text : PyStr) : Except PyExc Key := do
  let text := strip text
  let key ←
    if text.tails.any (py "BEGIN").isPrefixOf then do
      crypto.loadPem (← encodeStr text)
    else do
      crypto.loadDer (← crypto.b64decode text)
  if crypto.isP256 key then pure key else throw .valueError

end RemoteUnlock.Common
