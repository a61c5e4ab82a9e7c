import RemoteUnlock.MobileApp.NumberText
import RemoteUnlock.Windows.Service

/-!
# The texts that the app and the Windows listener sign

Each side puts the timestamp into the text as its own language writes it, and the other side
puts in what it has read from the message.  The texts differ at every whole second
(`sameText_iff`).
-/

namespace RemoteUnlock.MobileApp

open Python Common Windows

/-- `${action}:${nonce}:${timestamp}`, which is signed in UTF-8. -/
def message (action nonce timestamp : Text) : Bytes :=
  encode (action ++ [':'] ++ nonce ++ [':'] ++ timestamp)

def actionText : Action → Text
  | .unlock => "unlock".toList
  | .shutdown => "shutdown".toList

/-- `os.urandom(16).hex()` -/
def nonceText (random : Bytes) : Text := random.flatMap Audit.hexByte

/-- What `signChallenge` signs at a time. -/
def signedByPhone (action : Action) (random : Bytes) (millis : ℕ) : Bytes :=
  message (actionText action) (nonceText random) (numberText (clock millis))

/-- What `verify` rebuilds from `float(msg["timestamp"])`. -/
def rebuiltByListener (action : Action) (random : Bytes) (millis : ℕ) :
    Option (Except PyExc Bytes) :=
  ((loadNumber (numberText (clock millis))).bind float).map fun timestamp =>
    signedText action.text (hex random) (formatFloat timestamp)

/-- What `issue_challenge` signs at a time. -/
def signedByListener (random : Bytes) (millis : ℕ) : Except PyExc Bytes :=
  signedText (py "challenge") (hex random) (formatFloat (.finite false (clock millis)))

/-- What `verifySignature` rebuilds from the challenge. -/
def rebuiltByPhone (random : Bytes) (millis : ℕ) : Option Bytes :=
  (parseNumber (floatText (.finite false (clock millis)))).map fun timestamp =>
    message "challenge".toList (nonceText random) (numberText timestamp)

theorem message_eq_iff {action nonce timestamp other : Text} :
    message action nonce timestamp = message action nonce other ↔ timestamp = other := by
  unfold message
  rw [encode_injective.eq_iff, List.append_cancel_left_eq]

theorem signedText_action (action : Action) (random : Bytes) (timestamp : Text) :
    signedText action.text (hex random) timestamp =
      .ok (message (actionText action) (nonceText random) timestamp) := by
  cases action with
  | unlock => exact signedText_ofText _ _ _
  | shutdown => exact signedText_ofText _ _ _

theorem signedText_challenge (random : Bytes) (timestamp : Text) :
    signedText (py "challenge") (hex random) timestamp =
      .ok (message "challenge".toList (nonceText random) timestamp) :=
  signedText_ofText _ _ _

section Clock

variable {millis : ℕ}

theorem rebuiltByListener_iff (positive : 0 < millis) (small : millis < 10 ^ 15)
    (action : Action) (random : Bytes) :
    rebuiltByListener action random millis = some (.ok (signedByPhone action random millis)) ↔
      ¬ 1000 ∣ millis := by
  rw [rebuiltByListener, float_loadNumber positive small, Option.map_some, signedText_action,
    Option.some.injEq, Except.ok.injEq, signedByPhone, message_eq_iff,
    ← numberText_eq_iff positive small]
  exact eq_comm

theorem rebuiltByPhone_iff (positive : 0 < millis) (small : millis < 10 ^ 15)
    (random : Bytes) :
    (rebuiltByPhone random millis).map Except.ok = some (signedByListener random millis) ↔
      ¬ 1000 ∣ millis := by
  have parsed : parseNumber (floatText (.finite false (clock millis))) = some (clock millis) :=
    parseNumber_token millis
  rw [rebuiltByPhone, parsed, Option.map_some, Option.map_some, signedByListener,
    signedText_challenge, Option.some.injEq, Except.ok.injEq, message_eq_iff,
    ← numberText_eq_iff positive small]
  rfl

/-- Both sides sign and verify the same text exactly where the time is no whole second. -/
theorem sameText_iff (positive : 0 < millis) (small : millis < 10 ^ 15) (action : Action)
    (random : Bytes) :
    (rebuiltByListener action random millis = some (.ok (signedByPhone action random millis)) ↔
        ¬ 1000 ∣ millis) ∧
      ((rebuiltByPhone random millis).map Except.ok = some (signedByListener random millis) ↔
        ¬ 1000 ∣ millis) :=
  ⟨rebuiltByListener_iff positive small action random, rebuiltByPhone_iff positive small random⟩

end Clock

theorem sameText_iff_halfSecond :
    rebuiltByListener .shutdown [7] 1700000000500 =
        some (.ok (signedByPhone .shutdown [7] 1700000000500)) ∧
      (rebuiltByPhone [7] 1700000000500).map Except.ok =
        some (signedByListener [7] 1700000000500) := by
  have both := sameText_iff (by decide : 0 < 1700000000500) (by decide) .shutdown [7]
  exact ⟨both.1.mpr (by decide), both.2.mpr (by decide)⟩

/-- At a whole second the listener rebuilds another text than the phone has signed, and the
phone another one than the listener. -/
theorem not_sameText_wholeSecond :
    rebuiltByListener .unlock [7] 1700000000000 ≠
        some (.ok (signedByPhone .unlock [7] 1700000000000)) ∧
      (rebuiltByPhone [7] 1700000000000).map Except.ok ≠
        some (signedByListener [7] 1700000000000) := by
  constructor
  · rw [ne_eq, rebuiltByListener_iff (by decide) (by decide)]
    decide
  · rw [ne_eq, rebuiltByPhone_iff (by decide) (by decide)]
    decide

end RemoteUnlock.MobileApp
