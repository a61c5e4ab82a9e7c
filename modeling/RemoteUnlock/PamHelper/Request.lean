import RemoteUnlock.Python.Exec
import RemoteUnlock.Python.JsonRoundTrip
import RemoteUnlock.Python.TextFile

/-!
# The PAM helper

`request_unlock` as a machine that runs from one system call to the next.  Whatever pieces
the reply comes in, it says yes exactly if it is connected to the service user and the
pieces it has read make up `1` and a newline.
-/

namespace RemoteUnlock.PamHelper

open Python

/-! ## The machine -/

/-- Where `request_unlock` waits. -/
inductive Place where
  /-- For the connection. -/
  | connecting
  /-- For the request to be sent. -/
  | sending
  /-- For the rest of the reply. -/
  | receiving (reply : Bytes)
  | done (granted : Bool)
  deriving DecidableEq

/-- `json.dumps({"user": user}) + "\n"` -/
def requestText (user : PyStr) : Text := (Json.obj [(py "user", .str user)]).dumps ++ ['\n']

/-- The request as it is sent. -/
def requestLine (user : PyStr) : Bytes := encode (requestText user)

/-- `b"1\n"` -/
def yes : Bytes := [0x31, 0x0A]

/-- `b"0\n"` -/
def no : Bytes := [0x30, 0x0A]

namespace Place

/-- The top of the loop, with what has been read so far. -/
def loop (reply : Bytes) : Place :=
  if reply.getLast? ≠ some 0x0A ∧ reply.length < 8 then .receiving reply
  else .done (decide (reply = yes))

/-- The place when `s.connect` and `s.getsockopt` have ended, with the user id of the peer.
Whatever is raised is no yes: the `except` clause says no, and what it does not catch ends the
process. -/
def connected (expectedUid : ℤ) (peerUid : Except PyExc ℤ) : Place → Place
  | .connecting =>
      match peerUid with
      | .ok uid => if uid = expectedUid then .sending else .done false
      | .error _ => .done false
  | place => place

/-- The place when `s.sendall` has ended. -/
def sent (raises : Option PyExc) : Place → Place
  | .sending =>
      match raises with
      | none => loop []
      | some _ => .done false
  | place => place

/-- The place when `s.recv` has ended. -/
def received (chunk : Except PyExc Bytes) : Place → Place
  | .receiving reply =>
      match chunk with
      | .ok [] => .done (decide (reply = yes))
      | .ok chunk => loop (reply ++ chunk)
      | .error _ => .done false
  | place => place

end Place

/-- `request_unlock`, as far as its system calls end. -/
def requestUnlock (expectedUid : ℤ) (peerUid : Except PyExc ℤ) (raises : Option PyExc)
    (chunks : List (Except PyExc Bytes)) : Place :=
  chunks.foldl (fun place chunk => place.received chunk)
    ((Place.connecting.connected expectedUid peerUid).sent raises)

/-! ## When it says yes -/

@[simp]
theorem received_done (granted : Bool) (chunk : Except PyExc Bytes) :
    (Place.done granted).received chunk = .done granted := rfl

/-- A reply the loop goes on with is not the whole of a yes. -/
theorem ne_yes_of_loop {reply rest : Bytes} (goes : Place.loop reply = .receiving rest) :
    rest = reply ∧ reply ≠ yes := by
  unfold Place.loop at goes
  split at goes
  next unfinished =>
    refine ⟨(Place.receiving.inj goes).symm, ?_⟩
    rintro rfl
    exact unfinished.1 rfl
  · contradiction

theorem loop_eq_done_true_iff (reply : Bytes) : Place.loop reply = .done true ↔ reply = yes := by
  unfold Place.loop
  split
  next unfinished =>
    refine ⟨nofun, ?_⟩
    rintro rfl
    exact (unfinished.1 rfl).elim
  · rw [Place.done.injEq, decide_eq_true_iff]

theorem foldl_received_done (granted : Bool) (chunks : List (Except PyExc Bytes)) :
    chunks.foldl (fun place chunk => place.received chunk) (Place.done granted) =
      .done granted := by
  induction chunks with
  | nil => rfl
  | cons chunk chunks inductionHypothesis => exact inductionHypothesis

/-- The loop stops at no piece of a yes. -/
theorem loop_of_unfinished {reply : Bytes} (isPrefix : reply <+: yes) (unfinished : reply ≠ yes) :
    Place.loop reply = .receiving reply := by
  simp only [yes, List.prefix_cons_iff, List.prefix_nil] at isPrefix
  rcases isPrefix with rfl | ⟨_, rfl, rfl | ⟨_, rfl, rfl⟩⟩
  · rfl
  · rfl
  · exact (unfinished rfl).elim

/-- The first pieces that are read make up the rest of a yes. -/
def MakeUp (reply : Bytes) (chunks : List (Except PyExc Bytes)) : Prop :=
  ∃ pieces : List Bytes, pieces.map Except.ok <+: chunks ∧ [] ∉ pieces ∧
    reply ++ pieces.flatten = yes

theorem MakeUp.isPrefix {reply : Bytes} {chunks : List (Except PyExc Bytes)}
    (makes : MakeUp reply chunks) : reply <+: yes := by
  obtain ⟨pieces, _, _, whole⟩ := makes
  exact ⟨_, whole⟩

theorem makeUp_yes (chunks : List (Except PyExc Bytes)) : MakeUp yes chunks :=
  ⟨[], List.nil_prefix, List.not_mem_nil, List.append_nil _⟩

theorem makeUp_cons_iff {reply : Bytes} (unfinished : reply ≠ yes)
    (chunk : Except PyExc Bytes) (chunks : List (Except PyExc Bytes)) :
    MakeUp reply (chunk :: chunks) ↔
      ∃ piece, chunk = .ok piece ∧ piece ≠ [] ∧ MakeUp (reply ++ piece) chunks := by
  constructor
  · rintro ⟨pieces, isPrefix, full, whole⟩
    cases pieces with
    | nil =>
        rw [List.flatten_nil, List.append_nil] at whole
        exact (unfinished whole).elim
    | cons piece pieces =>
        rw [List.map_cons, List.cons_prefix_cons] at isPrefix
        rw [List.mem_cons, not_or] at full
        rw [List.flatten_cons, ← List.append_assoc] at whole
        exact ⟨piece, isPrefix.1.symm, Ne.symm full.1, pieces, isPrefix.2, full.2, whole⟩
  · rintro ⟨piece, rfl, isFull, pieces, isPrefix, full, whole⟩
    refine ⟨piece :: pieces, ?_, ?_, ?_⟩
    · rw [List.map_cons, List.cons_prefix_cons]
      exact ⟨rfl, isPrefix⟩
    · rw [List.mem_cons, not_or]
      exact ⟨Ne.symm isFull, full⟩
    · rw [List.flatten_cons, ← List.append_assoc]
      exact whole

/-- The loop says yes exactly if the first pieces make up the rest of a yes. -/
theorem foldl_loop_iff (reply : Bytes) (chunks : List (Except PyExc Bytes)) :
    chunks.foldl (fun place chunk => place.received chunk) (Place.loop reply) = .done true ↔
      MakeUp reply chunks := by
  induction chunks generalizing reply with
  | nil =>
      rw [List.foldl_nil, loop_eq_done_true_iff]
      constructor
      · rintro rfl
        exact makeUp_yes []
      · rintro ⟨pieces, isPrefix, _, whole⟩
        obtain rfl : pieces = [] := by simpa using isPrefix
        rwa [List.flatten_nil, List.append_nil] at whole
  | cons chunk chunks inductionHypothesis =>
      by_cases finished : reply = yes
      · subst finished
        exact iff_of_true (foldl_received_done true _) (makeUp_yes _)
      rw [makeUp_cons_iff finished]
      cases goes : Place.loop reply with
      | receiving rest =>
          obtain ⟨rfl, _⟩ := ne_yes_of_loop goes
          cases chunk with
          | error exc =>
              rw [List.foldl_cons, Place.received, foldl_received_done]
              exact iff_of_false nofun nofun
          | ok piece =>
              cases piece with
              | nil =>
                  rw [List.foldl_cons, Place.received, decide_eq_false finished,
                    foldl_received_done]
                  refine iff_of_false nofun ?_
                  rintro ⟨piece, isPiece, isFull, _⟩
                  exact isFull (Except.ok.inj isPiece).symm
              | cons first piece =>
                  rw [List.foldl_cons, Place.received, inductionHypothesis]
                  · constructor
                    · exact fun makes => ⟨_, rfl, List.cons_ne_nil _ _, makes⟩
                    · rintro ⟨other, isPiece, _, makes⟩
                      rwa [Except.ok.inj isPiece]
                  · exact nofun
      | done granted =>
          -- the loop has stopped at something that is no piece of a yes
          have notYes : granted ≠ true := by
            rintro rfl
            exact finished ((loop_eq_done_true_iff reply).mp goes)
          rw [foldl_received_done]
          refine iff_of_false (fun same => notYes (Place.done.inj same)) ?_
          rintro ⟨piece, rfl, _, makes⟩
          have isPrefix := (List.prefix_append reply piece).trans makes.isPrefix
          rw [loop_of_unfinished isPrefix finished] at goes
          contradiction
      | connecting => unfold Place.loop at goes; split at goes <;> contradiction
      | sending => unfold Place.loop at goes; split at goes <;> contradiction

/-- The helper says yes exactly if the service user is at the other end, the request could be
sent, and the pieces of the reply, as they come, make up `1` and a newline. -/
theorem requestUnlock_iff (expectedUid : ℤ) (peerUid : Except PyExc ℤ) (raises : Option PyExc)
    (chunks : List (Except PyExc Bytes)) :
    requestUnlock expectedUid peerUid raises chunks = .done true ↔
      peerUid = .ok expectedUid ∧ raises = none ∧ MakeUp [] chunks := by
  unfold requestUnlock
  cases peerUid with
  | error exc =>
      rw [Place.connected, Place.sent, foldl_received_done]
      · exact iff_of_false nofun nofun
      · exact nofun
  | ok uid =>
      by_cases isExpected : uid = expectedUid
      · cases raises with
        | some exc =>
            rw [Place.connected, if_pos isExpected, Place.sent, foldl_received_done]
            exact iff_of_false nofun nofun
        | none =>
            rw [Place.connected, if_pos isExpected, Place.sent, foldl_loop_iff]
            simp [isExpected]
      · rw [Place.connected, if_neg isExpected, Place.sent, foldl_received_done]
        · exact iff_of_false nofun fun holds => isExpected (Except.ok.inj holds.1)
        · exact nofun

/-! ## What it asks -/

/-- What the request says when it is read. -/
def requested (user : PyStr) : List (PyStr × Json) := [(py "user", .str user.joinPairs)]

theorem writes_spaced : Layout.spaced.Writes IsPrintable where
  printable _ printable := printable
  newline _ _ absent := absurd absent List.not_mem_nil
  afterComma character membership := by
    rw [List.mem_singleton.mp membership]
    decide
  afterColon character membership := by
    rw [List.mem_singleton.mp membership]
    decide

/-- The request is ASCII text without zeros. -/
theorem ascii_requestText (user : PyStr) :
    ∀ character ∈ requestText user, 0 < character.toNat ∧ character.toNat < 0x80 := by
  intro character membership
  rcases List.mem_append.mp membership with printed | newline
  · obtain ⟨low, high⟩ := Json.holds_print writes_spaced 0 _ character printed
    omega
  · rw [List.mem_singleton.mp newline]
    decide

theorem loads_requestText (user : PyStr) :
    Json.loads (requestText user) = some (.obj (requested user)) := by
  have head := Json.valueHead_print .spaced 0 (.obj [(py "user", .str user)])
  have read := Json.parseValue_print .spaced 0 (.obj [(py "user", .str user)])
    (2 * (requestText user).length + 1) ['\n'] (by simp [Decimal.Delimited])
    (by rw [requestText, Json.dumps, List.length_append]; omega)
  have isHead := head.append ['\n']
  have noMark := isHead.head_ne '\uFEFF' (by decide)
  rw [Json.loads, Json.parse, requestText, Json.dumps, if_neg noMark, isHead.skipSpace]
  rw [requestText, Json.dumps] at read
  rw [read]
  rfl

end RemoteUnlock.PamHelper
