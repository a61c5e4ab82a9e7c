import RemoteUnlock.Audit.Tamper

/-!
# Verifying against an anchor

A log that is accepted with a head is not accepted with that head as its anchor once
entries are cut off its end, because the head of a chain determines the chain.  The
verifier compares the anchor with the head it arrives at on every path but one: for a
missing file it returns before the comparison (`detects_iff`, `startsWithAnchor_iff`).
-/

namespace RemoteUnlock.Audit

open Python Python.Items Library

/-- `verify_file` returns ok, with this head. -/
def Approves (sha : Sha256) (chunkSize : ℕ) (anchor : Option PyStr) (file : Option Bytes)
    (head : Text) : Prop :=
  ∃ entries error, verifyFile sha chunkSize anchor file = .ok ⟨true, entries, head, error⟩

/-- The lines that hold an entry. -/
def entryLines (lines : List Text) : List Text := lines.filter (· ≠ [])

/-- What is left of a log: some of its first lines, or no file at all. -/
inductive Shortened (chunkSize : ℕ) (lines : List Text) : Option Bytes → Prop
  | deleted : Shortened chunkSize lines none
  | cut (kept : ℕ) (content : Bytes) (shorter : kept < lines.length)
      (opened : openLines chunkSize content = (lines.take kept, true)) :
      Shortened chunkSize lines (some content)

theorem openLines_nil (chunkSize : ℕ) : openLines chunkSize [] = ([], true) := by
  have decoded : Utf8State.run .start [] = some (.start, []) := rfl
  rw [openLines_of_run chunkSize decoded]
  rfl

/-- An empty file is a shortening of every log. -/
theorem Shortened.emptied (chunkSize : ℕ) {lines : List Text} (nonempty : lines ≠ []) :
    Shortened chunkSize lines (some []) := by
  apply Shortened.cut 0 [] (List.length_pos_iff.mpr nonempty)
  rw [openLines_nil, List.take_zero]

/-- No file is accepted that the head is not the head of. -/
def Detects (sha : Sha256) (chunkSize : ℕ) (head : Text) (file : Option Bytes) : Prop :=
  ∀ other, ¬ Approves sha chunkSize (some (ofText head)) file other

/-- No two digests agree, and none is the genesis value; as digests have one length, this
says that none starts another. -/
structure Sha256.CollisionFree (sha : Sha256) : Prop where
  distinct : ∀ first second, sha.hexdigest first <+: sha.hexdigest second → first = second
  noGenesis : ∀ data, ¬ sha.hexdigest data <+: genesis

theorem Sha256.CollisionFree.injective {sha : Sha256} (collisionFree : sha.CollisionFree) :
    Function.Injective sha.hexdigest := by
  intro first second same
  apply collisionFree.distinct
  rw [same]

/-! ## The anchor -/

/-- With an anchor the verifier accepts what it accepts without, if the head starts with
the anchor. -/
theorem verifyFile_anchored_iff {sha : Sha256} {chunkSize : ℕ} {anchor : Option PyStr}
    {content : Bytes} {entries : ℕ} {head : Text} {error : Option Text} :
    verifyFile sha chunkSize anchor (some content) = .ok ⟨true, entries, head, error⟩ ↔
      verifyFile sha chunkSize none (some content) = .ok ⟨true, entries, head, error⟩ ∧
        anchorMismatch head anchor = false := by
  rw [verifyFile_accepts_iff]
  rcases opened : openLines chunkSize content with ⟨lines, decoded⟩
  simp only [verifyFile, opened]
  cases replayed : verifyLines sha 1 .start lines with
  | error stop => cases stop <;> simp [replayed]
  | ok cursor =>
      cases decoded with
      | false => simp
      | true =>
          by_cases mismatch : anchorMismatch cursor.head anchor = true
          · simp only [Bool.true_eq_false, if_false, mismatch, if_true, Except.ok.injEq,
              Verdict.mk.injEq, Bool.false_eq_true, false_and, false_iff]
            rintro ⟨⟨_, other, same, ended⟩, agrees⟩
            cases same
            rw [replayed] at ended
            cases ended
            rw [mismatch] at agrees
            contradiction
          · rw [Bool.not_eq_true] at mismatch
            simp only [Bool.true_eq_false, if_false, mismatch, Bool.false_eq_true,
              Except.ok.injEq, Verdict.mk.injEq, true_and]
            constructor
            · rintro ⟨rfl, rfl, rfl⟩
              exact ⟨⟨rfl, lines, rfl, replayed⟩, mismatch⟩
            · rintro ⟨⟨rfl, other, same, ended⟩, _⟩
              cases same
              rw [replayed] at ended
              cases ended
              exact ⟨rfl, rfl, rfl⟩

theorem anchorMismatch_eq_false_iff {head : Text} {anchor : PyStr} (nonempty : anchor ≠ []) :
    anchorMismatch head (some anchor) = false ↔ lower anchor <+: ofText head := by
  cases anchor with
  | nil => contradiction
  | cons first rest => simp [anchorMismatch]

/-- A file that is there is accepted only with a head that starts with the anchor. -/
theorem startsWithAnchor_iff (sha : Sha256) (chunkSize : ℕ) (file : Option Bytes)
    {anchor : PyStr} (nonempty : anchor ≠ []) :
    (∀ head, Approves sha chunkSize (some anchor) file head → lower anchor <+: ofText head) ↔
      file ≠ none ∨ lower anchor <+: ofText genesis := by
  cases file with
  | none =>
      constructor
      · intro starts
        exact .inr (starts genesis ⟨0, none, rfl⟩)
      · rintro (exists_ | starts) head ⟨entries, error, accepted⟩
        · contradiction
        · simp only [verifyFile, Except.ok.injEq, Verdict.mk.injEq] at accepted
          rw [← accepted.2.2.1]
          exact starts
  | some content =>
      constructor
      · intro _
        exact .inl (Option.some_ne_none content)
      · rintro _ head ⟨entries, error, accepted⟩
        apply (anchorMismatch_eq_false_iff nonempty).mp
        exact (verifyFile_anchored_iff.mp accepted).2

theorem lower_ofText {text : Text} (hex : ∀ digit ∈ text, isHexDigit digit = true) :
    lower (ofText text) = ofText text := by
  unfold lower ofText
  rw [List.map_map]
  apply List.map_congr_left
  intro digit membership
  have isHex := hex digit membership
  simp only [Function.comp_apply]
  apply if_neg
  rintro ⟨atLeast, atMost⟩
  rw [CodePoint.val_ofChar] at atLeast atMost
  simp only [isHexDigit, Char.isDigit, Bool.or_eq_true, Bool.and_eq_true, decide_eq_true_eq]
    at isHex
  rcases isHex with ⟨_, decimal⟩ | ⟨letter, _⟩
  · have bound : digit.toNat ≤ 57 := decimal
    omega
  · have bound : 'a'.toNat ≤ digit.toNat := letter
    simp only [Char.reduceToNat] at bound
    omega

/-! ## Entries of a replay -/

theorem verifyLines_blank (sha : Sha256) (lineno : ℕ) (cursor : Cursor) {lines : List Text}
    (blank : entryLines lines = []) : verifyLines sha lineno cursor lines = .ok cursor := by
  induction lines generalizing lineno with
  | nil => rfl
  | cons line lines inductionHypothesis =>
      have empty : line = [] := by
        by_contra nonempty
        simp [entryLines, nonempty] at blank
      subst empty
      rw [verifyLines, checkLine_nil]
      apply inductionHypothesis
      simpa [entryLines] using blank

/-- A replay counts the lines that hold an entry, and behind one its head is a digest. -/
theorem verifyLines_entries {sha : Sha256} {lineno : ℕ} {cursor final : Cursor}
    {lines : List Text} (replayed : verifyLines sha lineno cursor lines = .ok final) :
    final.entries = cursor.entries + (entryLines lines).length ∧
      (entryLines lines ≠ [] → ∃ data, final.head = sha.hexdigest data) := by
  induction lines generalizing lineno cursor with
  | nil =>
      simp only [verifyLines, Except.ok.injEq] at replayed
      subst replayed
      exact ⟨rfl, fun nonempty => absurd rfl nonempty⟩
  | cons line lines inductionHypothesis =>
      rw [verifyLines] at replayed
      split at replayed
      · contradiction
      next next checked =>
        obtain ⟨counted, head⟩ := inductionHypothesis replayed
        by_cases blank : line = []
        · subst blank
          rw [checkLine_nil, Except.ok.injEq] at checked
          subst checked
          exact ⟨by simpa [entryLines] using counted, by simpa [entryLines] using head⟩
        · obtain ⟨members, _, rfl⟩ := (checkLine_eq_ok_iff blank).mp checked
          have kept : entryLines (line :: lines) = line :: entryLines lines := by
            simp [entryLines, blank]
          constructor
          · rw [kept, List.length_cons]
            simp only at counted
            omega
          · intro _
            by_cases last : entryLines lines = []
            · rw [verifyLines_blank sha _ _ last] at replayed
              cases replayed
              exact ⟨_, rfl⟩
            · exact head last

/-! ## Detection -/

/-- Verified with its former head as the anchor, a shortened log is rejected exactly if
there is still a file and an entry was cut off. -/
theorem detects_iff {sha : Sha256} (collisionFree : sha.CollisionFree) {chunkSize : ℕ}
    {content : Bytes} {entries : ℕ} {head : Text}
    (accepted : verifyFile sha chunkSize none (some content) = .ok ⟨true, entries, head, none⟩)
    (nonempty : 0 < entries) {file : Option Bytes}
    (shortened : Shortened chunkSize (openLines chunkSize content).1 file) :
    Detects sha chunkSize head file ↔
      ∃ rest, file = some rest ∧
        entryLines (openLines chunkSize rest).1 ≠ entryLines (openLines chunkSize content).1 := by
  obtain ⟨_, lines, opened, replayed⟩ := verifyFile_accepts_iff.mp accepted
  obtain ⟨counted, isDigest⟩ := verifyLines_entries replayed
  simp only [Cursor.start, Nat.zero_add] at counted
  have someEntry : entryLines lines ≠ [] := by
    rintro noEntry
    rw [noEntry, List.length_nil] at counted
    omega
  obtain ⟨data, rfl⟩ := isDigest someEntry
  have anchored : ofText (sha.hexdigest data) ≠ [] := by
    intro empty
    apply collisionFree.noGenesis data
    rw [List.map_eq_nil_iff.mp empty]
    exact List.nil_prefix
  rw [opened] at shortened ⊢
  cases shortened with
  | deleted =>
      constructor
      · intro detects
        exact absurd ⟨0, none, rfl⟩ (detects genesis)
      · rintro ⟨rest, missing, _⟩
        contradiction
  | cut kept rest shorter reopened =>
      simp only [Option.some.injEq, exists_eq_left', reopened]
      constructor
      · intro detects same
        have blank : entryLines (lines.drop kept) = [] := by
          have parts : entryLines (lines.take kept) ++ entryLines (lines.drop kept) =
              entryLines lines := by
            rw [entryLines, entryLines, ← List.filter_append, List.take_append_drop, entryLines]
          rw [same, List.append_right_eq_self] at parts
          exact parts
        have whole := verifyLines_append sha 1 .start (lines.take kept) (lines.drop kept)
        rw [List.take_append_drop, replayed] at whole
        cases first : verifyLines sha 1 .start (lines.take kept) with
        | error stop =>
            rw [first] at whole
            contradiction
        | ok cursor =>
            rw [first] at whole
            simp only [verifyLines_blank sha _ _ blank, Except.ok.injEq] at whole
            apply detects (sha.hexdigest data)
            refine ⟨entries, none, verifyFile_anchored_iff.mpr ⟨?_, ?_⟩⟩
            · apply verifyFile_accepts_iff.mpr
              refine ⟨rfl, _, reopened, ?_⟩
              rw [first, whole]
            · apply (anchorMismatch_eq_false_iff anchored).mpr
              rw [lower_ofText (sha.isHex data)]
      · rintro cut other ⟨count, error, approved⟩
        obtain ⟨unanchored, matched⟩ := verifyFile_anchored_iff.mp approved
        obtain ⟨rfl, remaining, reread, again⟩ := verifyFile_accepts_iff.mp unanchored
        rw [reopened, Prod.mk.injEq] at reread
        obtain ⟨rfl, _⟩ := reread
        have starts := (anchorMismatch_eq_false_iff anchored).mp matched
        rw [lower_ofText (sha.isHex data), ofText, ofText,
          List.prefix_map_iff_of_injective CodePoint.ofChar_injective] at starts
        obtain ⟨recounted, isOther⟩ := verifyLines_entries again
        simp only [Cursor.start, Nat.zero_add] at recounted
        by_cases noneLeft : entryLines (lines.take kept) = []
        · rw [verifyLines_blank sha _ _ noneLeft] at again
          cases again
          exact collisionFree.noGenesis data starts
        · obtain ⟨otherData, rfl⟩ := isOther noneLeft
          rw [collisionFree.distinct data otherData starts] at accepted
          have someLeft : 0 < count := by
            rw [recounted]
            exact List.length_pos_iff.mpr noneLeft
          have sameCount := (parsedEntries_eq_of_head_eq collisionFree.injective accepted
            unanchored nonempty someLeft).1
          apply cut
          apply List.IsPrefix.eq_of_length
          · exact (List.take_prefix kept lines).filter _
          · omega

/-- An anchored verification detects each truncation by which an entry is lost, as long as
there is a file, and then accepts only a head that starts with the anchor. -/
theorem anchored_iff (sha : Sha256) (chunkSize : ℕ) (collisionFree : sha.CollisionFree) :
    (∀ content entries head file,
      verifyFile sha chunkSize none (some content) = .ok ⟨true, entries, head, none⟩ →
      0 < entries → Shortened chunkSize (openLines chunkSize content).1 file →
      (Detects sha chunkSize head file ↔
        ∃ rest, file = some rest ∧ entryLines (openLines chunkSize rest).1 ≠
          entryLines (openLines chunkSize content).1)) ∧
    ∀ file anchor, anchor ≠ [] →
      ((∀ head, Approves sha chunkSize (some anchor) file head →
          lower anchor <+: ofText head) ↔
        file ≠ none ∨ lower anchor <+: ofText genesis) := by
  constructor
  · intro content entries head file accepted nonempty shortened
    exact detects_iff collisionFree accepted nonempty shortened
  · intro file anchor nonempty
    exact startsWithAnchor_iff sha chunkSize file nonempty

theorem collisionFree_firstDigests : (Sha256.coded firstDigests).CollisionFree where
  distinct _ _ := Sha256.eq_of_coded_prefix (Sha256.Known.apart_of_all (by decide))
  noGenesis := by
    refine Sha256.not_coded_prefix (by decide) (by decide) ?_
    rintro digit ⟨⟩
    decide

/-- The line of one `stopCall`. -/
def stopLine : Text :=
  entryLine (.table firstDigests) genesis
    (newEntry LogState.fresh.log stopCall.timestamp stopCall.event stopCall.data) ++ ['\n']

/-- The log of one `stopCall`. -/
def stopContent : Bytes := encode stopLine

def stopHead : Text := "873c934d21c25f07df01977479a9aae72e82d1af4dfb3580817bce3efa1e9165".toList

theorem verifyFile_stopContent :
    verifyFile (.coded firstDigests) 8192 none (some stopContent) =
      .ok ⟨true, 1, stopHead, none⟩ := by
  apply verifyFile_accepts_iff.mpr
  refine ⟨rfl, _, openLines_of_run 8192 (run_encode stopLine), ?_⟩
  decide +kernel

theorem detects_stopContent :
    Detects (.coded firstDigests) 8192 stopHead (some []) := by
  have opened : openLines 8192 stopContent = (textLines stopLine, true) :=
    openLines_of_run 8192 (run_encode stopLine)
  have someEntry : entryLines (textLines stopLine) ≠ [] := by
    decide +kernel
  generalize textLines stopLine = lines at opened someEntry
  have someLine : lines ≠ [] := by
    rintro rfl
    exact someEntry rfl
  refine ((anchored_iff (.coded firstDigests) 8192 collisionFree_firstDigests).1 stopContent 1
    stopHead (some []) verifyFile_stopContent (by decide) ?_).mpr ⟨[], rfl, ?_⟩
  · rw [opened]
    exact Shortened.emptied 8192 someLine
  · rw [opened, openLines_nil]
    exact someEntry.symm

/-- Every shortening of a log is detected, and no file is accepted with another head. -/
def TruncationsDetected (sha : Sha256) (chunkSize : ℕ) : Prop :=
  (∀ content entries head file,
    verifyFile sha chunkSize none (some content) = .ok ⟨true, entries, head, none⟩ →
    0 < entries → Shortened chunkSize (openLines chunkSize content).1 file →
    Detects sha chunkSize head file) ∧
  ∀ file anchor head, anchor ≠ [] → Approves sha chunkSize (some anchor) file head →
    lower anchor <+: ofText head

/-- A deleted log is accepted with whatever anchor. -/
theorem not_truncationsDetected : (Sha256.coded firstDigests).CollisionFree ∧
    ¬ TruncationsDetected (.coded firstDigests) 8192 := by
  refine ⟨collisionFree_firstDigests, ?_⟩
  rintro ⟨detected, _⟩
  exact detected stopContent 1 stopHead none verifyFile_stopContent (by decide) .deleted genesis
    ⟨0, none, rfl⟩

end RemoteUnlock.Audit
