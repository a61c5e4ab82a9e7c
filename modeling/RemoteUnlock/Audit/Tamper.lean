import RemoteUnlock.Audit.Runs
import RemoteUnlock.Library.HashChain

/-!
# Tamper evidence

An accepted log is a hash chain: its entries, without their hashes and with their
keys in order, are the chain's entries, and the verifier's cursor is the chain's
last digest.  Without collisions the digest of an entry determines the entry and
the digest before it, because digests contain no brace and canonical text starts
with one.
-/

namespace RemoteUnlock.Audit

open Python Python.Items Library

/-- An entry without its hash, in the order its canonical text has. -/
structure Entry where
  members : List (PyStr × Json)
  joined : Json.Joined (.obj members)
  sorted : Json.Sorted (.obj members)

namespace Entry

def ofMembers (members : List (PyStr × Json)) (joined : Json.Joined (.obj members)) :
    Entry where
  members := sortItems (members.map fun member => (member.1, member.2.sortKeys))
  joined := by
    rw [← Json.sortKeys_obj]
    exact joined.sortKeys
  sorted := by
    rw [← Json.sortKeys_obj]
    exact Json.sorted_sortKeys _

theorem ext_members {first second : Entry} (same : first.members = second.members) :
    first = second := by
  cases first
  cases second
  simpa using same

/-- The sequence number an entry records. -/
def Records (entry : Entry) (position : ℕ) : Prop :=
  (lookup (py "seq") entry.members).bind Json.number = some (position : ℚ)

theorem Records.unique {entry : Entry} {first second : ℕ} (firstRecords : entry.Records first)
    (secondRecords : entry.Records second) : first = second := by
  unfold Records at firstRecords secondRecords
  rw [firstRecords, Option.some.injEq] at secondRecords
  exact_mod_cast secondRecords

end Entry

/-- A text of hexadecimal digits. -/
def Digest : Type := { text : Text // ∀ digit ∈ text, isHexDigit digit = true }

def genesisDigest : Digest := ⟨genesis, List.all_eq_true.mp (by decide)⟩

/-- The hash of an entry behind a digest. -/
def link (sha : Sha256) (before : Digest) (entry : Entry) : Digest :=
  ⟨hash sha before.1 (.obj entry.members), sha.isHex _⟩

theorem link_ofMembers (sha : Sha256) (before : Digest) {members : List (PyStr × Json)}
    (joined : Json.Joined (.obj members)) :
    (link sha before (Entry.ofMembers members joined)).1 = hash sha before.1 (.obj members) := by
  apply hash_congr
  rw [Entry.ofMembers, ← Json.sortKeys_obj, Json.sortKeys_sortKeys]

theorem ne_brace_of_isHexDigit {digit : Char} (hex : isHexDigit digit = true) : digit ≠ '{' := by
  rintro rfl
  revert hex
  decide

/-- The first brace separates a digest from the canonical text behind it. -/
theorem split_at_brace {first second rest otherRest : Text}
    (firstHex : ∀ digit ∈ first, isHexDigit digit = true)
    (secondHex : ∀ digit ∈ second, isHexDigit digit = true)
    (same : first ++ '{' :: rest = second ++ '{' :: otherRest) :
    first = second ∧ '{' :: rest = '{' :: otherRest := by
  have prefixOf : ∀ text tail : Text, (∀ digit ∈ text, isHexDigit digit = true) →
      (text ++ '{' :: tail).takeWhile (· ≠ '{') = text := by
    intro text tail hex
    rw [List.takeWhile_append_of_pos]
    · simp
    · intro digit membership
      simpa using ne_brace_of_isHexDigit (hex digit membership)
  have digests : first = second := by
    rw [← prefixOf first rest firstHex, same, prefixOf second otherRest secondHex]
  rw [digests] at same
  exact ⟨digests, List.append_cancel_left same⟩

theorem link_injective {sha : Sha256} (collisionFree : Function.Injective sha.hexdigest)
    (before : Digest) (entry : Entry) (otherBefore : Digest) (other : Entry)
    (same : link sha before entry = link sha otherBefore other) :
    before = otherBefore ∧ entry = other := by
  have texts : before.1 ++ canon (.obj entry.members) =
      otherBefore.1 ++ canon (.obj other.members) := by
    exact encode_injective (collisionFree (congrArg Subtype.val same))
  rcases canon_obj entry.members with ⟨rest, printed⟩
  rcases canon_obj other.members with ⟨otherRest, otherPrinted⟩
  rw [printed, otherPrinted] at texts
  rcases split_at_brace before.2 otherBefore.2 texts with ⟨digests, canonical⟩
  rw [← printed, ← otherPrinted] at canonical
  have values := Json.sortKeys_eq_of_dumpsCanonical_eq entry.joined other.joined canonical
  rw [Json.sortKeys_of_sorted entry.sorted, Json.sortKeys_of_sorted other.sorted,
    Json.obj.injEq] at values
  exact ⟨Subtype.ext digests, Entry.ext_members values⟩

/-! ## From the lines to the chain -/

/-- The JSON values on the lines of a log. -/
def parsedEntries (lines : List Text) : List Json :=
  (lines.filter (· ≠ [])).filterMap Json.loads

/-- An entry with its hash, as it stands on its line. -/
def withHash (entry : Entry) (digest : Digest) : Json :=
  (Json.obj (assign (py "hash") (.str (ofText digest.1)) entry.members)).sortKeys

/-- The values on the lines of a chain. -/
def stored (sha : Sha256) : Digest → List Entry → List Json
  | _, [] => []
  | before, entry :: rest =>
      withHash entry (link sha before entry) :: stored sha (link sha before entry) rest

@[simp]
theorem number_sortKeys (value : Json) : value.sortKeys.number = value.number := by
  cases value <;> rfl

@[simp]
theorem lookup_ofMembers (key : PyStr) {members : List (PyStr × Json)}
    (joined : Json.Joined (.obj members)) :
    lookup key (Entry.ofMembers members joined).members =
      (lookup key members).map Json.sortKeys := by
  rw [Entry.ofMembers, lookup_sortItems, lookup_map]

/-- What a line says is determined by its entry and its hash. -/
theorem sortKeys_of_readEntry {line : Text} {members : List (PyStr × Json)} (digest : Digest)
    (read : readEntry line = .ok (members, .str (ofText digest.1))) :
    ∃ value, Json.loads line = some value ∧ ∃ joined : Json.Joined (.obj members),
      value.sortKeys = withHash (Entry.ofMembers members joined) digest := by
  unfold readEntry at read
  split at read
  · simp at read
  next all loaded =>
    split at read
    · simp at read
    next claimed found =>
      simp only [Except.ok.injEq, Prod.mk.injEq] at read
      rcases read with ⟨rfl, rfl⟩
      have allJoined := Json.joined_obj.mp (Json.joined_of_loads loaded)
      have joined : Json.Joined (.obj (remove (py "hash") all)) :=
        Json.joined_obj.mpr fun member membership =>
          allJoined member (List.mem_of_mem_filter membership)
      refine ⟨.obj all, loaded, joined, ?_⟩
      rw [withHash, Json.sortKeys_obj, Json.sortKeys_obj]
      congr 1
      apply Json.sortItems_map_congr
      intro key
      rw [lookup_assign, lookup_ofMembers, lookup_remove]
      by_cases isHash : key = py "hash"
      · simp [isHash, found]
      · rw [if_neg isHash, if_neg isHash, Option.map_map]
        congr 1
        funext value
        exact (Json.sortKeys_sortKeys value).symm
  · simp at read
  · simp at read

/-- The loop reads a chain: from a cursor on, the values on the lines, the last hash
and the number of entries are those of a list of numbered entries. -/
theorem verifyLines_chain {sha : Sha256} {lineno : ℕ} (before : Digest) {count : ℕ}
    {lines : List Text} {final : Cursor}
    (replayed : verifyLines sha lineno ⟨count, before.1⟩ lines = .ok final) :
    ∃ entries : List Entry,
      (parsedEntries lines).map Json.sortKeys = stored sha before entries ∧
      final.entries = count + entries.length ∧
      final.head = (HashChain.head (link sha) before entries).1 ∧
      ∀ (index : ℕ) (entry : Entry), entries[index]? = some entry →
        entry.Records (count + index + 1) := by
  induction lines generalizing lineno before count with
  | nil =>
      simp only [verifyLines, Except.ok.injEq] at replayed
      exact ⟨[], rfl, by simp [← replayed], by simp [← replayed], by simp⟩
  | cons line lines inductionHypothesis =>
      rw [verifyLines] at replayed
      split at replayed
      · simp at replayed
      next next checked =>
        by_cases blank : line = []
        · subst blank
          rw [checkLine_nil, Except.ok.injEq] at checked
          subst checked
          simpa [parsedEntries] using inductionHypothesis _ replayed
        · rcases (checkLine_eq_ok_iff blank).mp checked with ⟨members, continues, rfl⟩
          have read := continues.read
          rcases sortKeys_of_readEntry ⟨hash sha before.1 (.obj members), sha.isHex _⟩ read with
            ⟨value, loaded, joined, sorted⟩
          have linked : (⟨hash sha before.1 (.obj members), sha.isHex _⟩ : Digest) =
              link sha before (Entry.ofMembers members joined) :=
            Subtype.ext (link_ofMembers sha before joined).symm
          rw [← link_ofMembers sha before joined] at replayed
          rcases inductionHypothesis _ replayed with ⟨entries, values, length, last, numbered⟩
          refine ⟨Entry.ofMembers members joined :: entries, ?_, ?_, last, ?_⟩
          · have parsed : parsedEntries (line :: lines) = value :: parsedEntries lines := by
              simp [parsedEntries, blank, loaded]
            rw [parsed, List.map_cons, values, sorted, linked, stored]
          · simp only [length, List.length_cons]
            omega
          · intro index entry found
            cases index with
            | zero =>
                simp only [List.getElem?_cons_zero, Option.some.injEq] at found
                subst found
                have seq := continues.seq
                unfold Entry.Records
                rw [lookup_ofMembers]
                cases written : lookup (py "seq") members with
                | none => simp [written] at seq
                | some number =>
                    rw [written, Option.bind_some] at seq
                    rw [Option.map_some, Option.bind_some, number_sortKeys, seq]
            | succ index =>
                rw [List.getElem?_cons_succ] at found
                have records := numbered index entry found
                have position : count + 1 + index + 1 = count + (index + 1) + 1 := by omega
                rwa [position] at records

/-- Two logs accepted with the same last hash hold the same entries. -/
theorem parsedEntries_eq_of_head_eq {sha : Sha256}
    (collisionFree : Function.Injective sha.hexdigest)
    {firstSize secondSize firstCount secondCount : ℕ} {first second : Bytes} {head : Text}
    (firstAccepted : verifyFile sha firstSize none (some first) =
      .ok ⟨true, firstCount, head, none⟩)
    (secondAccepted : verifyFile sha secondSize none (some second) =
      .ok ⟨true, secondCount, head, none⟩)
    (firstNonempty : 0 < firstCount) (secondNonempty : 0 < secondCount) :
    firstCount = secondCount ∧
      (parsedEntries (openLines firstSize first).1).map Json.sortKeys =
        (parsedEntries (openLines secondSize second).1).map Json.sortKeys := by
  rcases verifyFile_accepts_iff.mp firstAccepted with ⟨_, lines, opened, replayed⟩
  rcases verifyFile_accepts_iff.mp secondAccepted with
    ⟨_, otherLines, otherOpened, otherReplayed⟩
  rcases verifyLines_chain genesisDigest replayed with
    ⟨entries, values, length, last, numbered⟩
  rcases verifyLines_chain genesisDigest otherReplayed with
    ⟨otherEntries, otherValues, otherLength, otherLast, otherNumbered⟩
  simp only [zero_add] at length otherLength numbered otherNumbered
  have sameHead : HashChain.head (link sha) genesisDigest entries =
      HashChain.head (link sha) genesisDigest otherEntries :=
    Subtype.ext (last.symm.trans otherLast)
  have unique : ∀ entry first second, Entry.Records entry first → Entry.Records entry second →
      first = second := fun _ _ _ => Entry.Records.unique
  have same : entries = otherEntries :=
    HashChain.eq_of_head_eq (link_injective collisionFree)
      unique numbered otherNumbered
      (List.length_pos_iff.mp (by omega)) (List.length_pos_iff.mp (by omega)) sameHead
  subst same
  refine ⟨by omega, ?_⟩
  rw [opened, otherOpened, values, otherValues]

/-- The log of a `lockoutCall` and an `unlockCall`. -/
def nestedText : Text :=
  entryLine (.table nestedDigests) genesis
      (newEntry LogState.fresh.log lockoutCall.timestamp lockoutCall.event lockoutCall.data) ++
    '\n' :: entryLine (.table nestedDigests) lockoutHead unlockEntry ++ ['\n']

/-- The second line with its keys in another order, blanks between them and characters that
are not escaped. -/
def respelledLine : Text :=
  "\x7b\"seq\": 2, \"ts\": \"2026-01-01T00:00:00.000+00:00\", \"event\": \"unlock\", ".toList ++
  "\"data\": \x7b\"échecs\": \x7b\"n\": 3, \"clés\": [\"ü\", \x7b\"é\": []\x7d]\x7d, ".toList ++
  "\"device\": \"téléphone 📱\"\x7d, \"hash\": \"".toList ++ unlockHead ++
  "\", \"prev\": \"".toList ++ lockoutHead ++ "\"\x7d".toList

/-- The same entries spelled otherwise, with a blank line. -/
def respelledText : Text :=
  entryLine (.table nestedDigests) genesis
      (newEntry LogState.fresh.log lockoutCall.timestamp lockoutCall.event lockoutCall.data) ++
    '\n' :: '\n' :: respelledLine ++ ['\n']

theorem verifyFile_nested {text : Text}
    (replayed : verifyLines (.table nestedDigests) 1 .start (textLines text) =
      .ok ⟨2, unlockHead⟩) :
    verifyFile (.table nestedDigests) 8192 none (some (encode text)) =
      .ok ⟨true, 2, unlockHead, none⟩ :=
  verifyFile_accepts_iff.mpr ⟨rfl, _, openLines_of_run 8192 (run_encode text), replayed⟩

theorem parsedEntries_respelled :
    2 = 2 ∧ (parsedEntries (openLines 8192 (encode nestedText)).1).map Json.sortKeys =
      (parsedEntries (openLines 8192 (encode respelledText)).1).map Json.sortKeys :=
  parsedEntries_eq_of_head_eq (Sha256.table_injective nestedDigests)
    (verifyFile_nested (by decide +kernel)) (verifyFile_nested (by decide +kernel))
    (by decide) (by decide)

end RemoteUnlock.Audit
