import Mathlib.Data.List.Induction

/-!
# Hash chains

A chain of entries is folded into one digest: `link` digests an entry together
with the digest of everything before it.  Where `link` is injective and every
entry records its position, the last digest determines the whole chain
(`eq_of_head_eq`): the last entries agree, hence their positions and the digests
before them, and so on back to the first.
-/

namespace RemoteUnlock.Library.HashChain

variable {Entry Digest : Type*}

/-- The digest of a whole chain. -/
def head (link : Digest → Entry → Digest) (genesis : Digest) (entries : List Entry) : Digest :=
  entries.foldl link genesis

@[simp]
theorem head_nil (link : Digest → Entry → Digest) (genesis : Digest) :
    head link genesis [] = genesis := rfl

@[simp]
theorem head_append_singleton (link : Digest → Entry → Digest) (genesis : Digest)
    (entries : List Entry) (entry : Entry) :
    head link genesis (entries ++ [entry]) = link (head link genesis entries) entry := by
  simp [head]

/-- Every entry records its position, counted from one. -/
def Numbered (records : Entry → ℕ → Prop) (entries : List Entry) : Prop :=
  ∀ index entry, entries[index]? = some entry → records entry (index + 1)

variable {records : Entry → ℕ → Prop}

@[simp]
theorem numbered_nil : Numbered records [] := by simp [Numbered]

theorem numbered_append_singleton {entries : List Entry} {entry : Entry} :
    Numbered records (entries ++ [entry]) ↔
      Numbered records entries ∧ records entry (entries.length + 1) := by
  constructor
  · intro numbered
    refine ⟨?_, numbered entries.length entry (by simp)⟩
    intro index other found
    apply numbered index other
    rw [List.getElem?_append_left (List.getElem?_eq_some_iff.mp found).1, found]
  · rintro ⟨numbered, last⟩ index other found
    rcases Nat.lt_trichotomy index entries.length with before | same | behind
    · rw [List.getElem?_append_left before] at found
      exact numbered index other found
    · subst same
      simp only [List.getElem?_concat_length, Option.some.injEq] at found
      rw [← found]
      exact last
    · have outside : (entries ++ [entry])[index]? = none := by
        rw [List.getElem?_eq_none_iff, List.length_append, List.length_singleton]
        omega
      rw [outside] at found
      contradiction

/-- A nonempty chain is determined by its last digest. -/
theorem eq_of_head_eq {link : Digest → Entry → Digest} {genesis : Digest}
    (injective : ∀ before entry otherBefore other,
      link before entry = link otherBefore other → before = otherBefore ∧ entry = other)
    (functional : ∀ entry first second, records entry first → records entry second →
      first = second)
    {first second : List Entry} (firstNumbered : Numbered records first)
    (secondNumbered : Numbered records second)
    (firstNonempty : first ≠ []) (secondNonempty : second ≠ [])
    (same : head link genesis first = head link genesis second) : first = second := by
  induction first using List.reverseRecOn generalizing second with
  | nil => contradiction
  | append_singleton first last inductionHypothesis =>
      rcases List.eq_nil_or_concat second with empty | ⟨before, other, equality⟩
      · contradiction
      rw [List.concat_eq_append] at equality
      subst equality
      rw [head_append_singleton, head_append_singleton] at same
      rcases injective _ _ _ _ same with ⟨headSame, rfl⟩
      rw [numbered_append_singleton] at firstNumbered secondNumbered
      have length := functional last _ _ firstNumbered.2 secondNumbered.2
      by_cases firstEmpty : first = []
      · have secondEmpty : before = [] := by
          rw [firstEmpty, List.length_nil] at length
          exact List.length_eq_zero_iff.mp (by omega)
        rw [firstEmpty, secondEmpty]
      · have secondNotEmpty : before ≠ [] := by
          rintro rfl
          simp at length
          contradiction
        rw [inductionHypothesis firstNumbered.1 secondNumbered.1 firstEmpty secondNotEmpty
          headSame]

end RemoteUnlock.Library.HashChain
