/-
  Rebasing step by step.

  * `negation`: the sign in front of a line, if it has one.
  * `exists_rebase_eq`: a rebased line has the sign of the line, the path of the
    directory between slashes, and something that does not depend on the directory.
  * `rebase_rebase`: so a line of a directory below another one can be rebased to the
    one and then to the other.
  * `rebase_composes`: this and which lines stay as they are.
-/
import SiteAudit.Proofs.Exclude.Rebasing

namespace SiteAudit.Exclude

open Text (startsWith)

variable {base outer inner line pattern : Text}

/-- The sign in front of a line that negates. -/
def negation (line : Text) : Text :=
  if startsWith ['!'] line then ['!'] else []

theorem negation_append_unnegated (line : Text) : negation line ++ unnegated line = line := by
  rw [negation, unnegated, startsWith]
  cases hrest : Text.dropExact? ['!'] line with
  | none => rfl
  | some rest => exact (Text.dropExact?_eq_some_iff.1 hrest).symm

theorem rebase_of_notSilent (hbase : base ≠ []) (hsilent : ¬ IsSilent line) (hlone : line ≠ ['!']) :
    rebase base line = negation line ++ rebasedPattern base (unnegated line) := by
  obtain ⟨hunnegated, hnegated, -⟩ := rebase_spec hbase hsilent hlone
  rw [← negation_append_unnegated (rebase base line), hunnegated, negation, hnegated, negation]

/-- **A rebased line names the directory right behind its sign**, and what follows
    does not depend on the directory. -/
theorem exists_rebase_eq (hsilent : ¬ IsSilent line) (hlone : line ≠ ['!']) :
    ∃ rest, ∀ base, base ≠ [] → rebase base line = negation line ++ '/' :: (base ++ '/' :: rest) := by
  obtain ⟨rest, hrest⟩ := exists_rebasedPattern (unnegated line)
  refine ⟨rest, fun base hbase => ?_⟩
  rw [rebase_of_notSilent hbase hsilent hlone, hrest]

theorem negation_eq_or (line : Text) : negation line = ['!'] ∨ negation line = [] := by
  rw [negation]
  split
  · exact Or.inl rfl
  · exact Or.inr rfl

/-- A line with a slash behind its sign is neither blank nor a comment, and has
    something to negate. -/
theorem not_isSilent_slash (line pattern : Text) :
    ¬ IsSilent (negation line ++ '/' :: pattern) ∧ negation line ++ '/' :: pattern ≠ ['!'] := by
  have hslash : Text.isBlank '/' = false := rfl
  rcases negation_eq_or line with h | h <;>
    simp [h, IsSilent, Text.isAllBlank, startsWith, Text.dropExact?, hslash]

theorem negation_slash (line pattern : Text) : negation (negation line ++ '/' :: pattern) = negation line ∧
    unnegated (negation line ++ '/' :: pattern) = '/' :: pattern := by
  rcases negation_eq_or line with h | h
  · rw [h]
    exact ⟨rfl, rfl⟩
  · rw [h]
    exact ⟨rfl, rfl⟩

/-- **Rebasing twice is rebasing once, below the longer path.** -/
theorem rebase_rebase (houter : outer ≠ []) (hinner : inner ≠ []) (line : Text) :
    rebase outer (rebase inner line) = rebase (outer ++ '/' :: inner) line := by
  by_cases hsilent : IsSilent line
  · rw [rebase_silent hsilent, rebase_silent hsilent, rebase_silent hsilent]
  by_cases hlone : line = ['!']
  · rw [hlone, rebase_lone, rebase_lone, rebase_lone]
  obtain ⟨rest, hrest⟩ := exists_rebase_eq hsilent hlone
  -- The line in between is anchored, so it is written behind the outer path as it is.
  have hbetween := not_isSilent_slash line (inner ++ '/' :: rest)
  have hsigned := negation_slash line (inner ++ '/' :: rest)
  rw [hrest inner hinner, hrest (outer ++ '/' :: inner) (by simp [houter]),
    rebase_of_notSilent houter hbetween.1 hbetween.2, hsigned.1, hsigned.2]
  simp [rebasedPattern, startsWith, Text.dropExact?]

theorem startsWith_singleton_iff {c : Char} : startsWith [c] line = true ↔ line.head? = some c := by
  cases line with
  | nil => simp [startsWith, Text.dropExact?]
  | cons d line => by_cases h : c = d <;> simp [startsWith, Text.dropExact?, h, eq_comm]

theorem isSilent_iff : IsSilent line ↔ Text.isAllBlank line = true ∨ line.head? = some '#' := by
  rw [IsSilent, startsWith_singleton_iff]

/-- **Rebasing composes.**  A line is rebased to one directory and then to another as
    it is to the path of both.  It stays as it is without a directory, and if it is
    blank or a comment.  Any other line, unless it negates nothing, is written behind
    the directory's path between slashes, with a sign in front exactly if it has
    one, and so is neither blank nor a comment. -/
theorem rebase_composes (line : Text) :
    (∀ outer inner, outer ≠ [] → inner ≠ [] → rebase outer (rebase inner line) = rebase (outer ++ '/' :: inner) line) ∧
    rebase [] line = line ∧
    ((Text.isAllBlank line = true ∨ line.head? = some '#') → ∀ base, rebase base line = line) ∧
    (Text.isAllBlank line = false → line.head? ≠ some '#' → line ≠ ['!'] → ∀ base, base ≠ [] →
      (∃ rest, rebase base line = (if line.head? = some '!' then ['!'] else []) ++ '/' :: (base ++ '/' :: rest)) ∧
        Text.isAllBlank (rebase base line) = false ∧ (rebase base line).head? ≠ some '#') := by
  refine ⟨fun outer inner houter hinner => rebase_rebase houter hinner line, by simp [rebase], fun hsilent base =>
    rebase_silent (isSilent_iff.2 hsilent), fun hblank hcomment hlone base hbase => ?_⟩
  have hsilent : ¬ IsSilent line := by
    rw [isSilent_iff]
    rintro (h | h)
    · exact absurd h (by simp [hblank])
    · exact hcomment h
  obtain ⟨rest, hrest⟩ := exists_rebase_eq hsilent hlone
  have hrebased := not_isSilent_slash line (base ++ '/' :: rest)
  rw [← hrest base hbase, isSilent_iff, not_or, Bool.not_eq_true] at hrebased
  refine ⟨⟨rest, ?_⟩, hrebased.1⟩
  simp only [hrest base hbase, negation, startsWith_singleton_iff]

/-- The inner step keeps the negation and any depth, the outer one only adds its
    path. -/
theorem rebase_composes_negated : "web".toList ≠ [] ∧ "app".toList ≠ [] ∧
    rebase "web".toList (rebase "app".toList "!bin/".toList) = rebase "web/app".toList "!bin/".toList ∧
    rebase "web/app".toList "!bin/".toList = "!/web/app/**/bin/".toList ∧
    Text.isAllBlank "!bin/".toList = false ∧
      ∃ rest, rebase "app".toList "!bin/".toList = ['!'] ++ '/' :: ("app".toList ++ '/' :: rest) := by
  obtain ⟨hcomposes, -, -, hsigned⟩ := rebase_composes "!bin/".toList
  have houter : "web".toList ≠ [] := by decide
  have hinner : "app".toList ≠ [] := by decide
  exact ⟨houter, hinner, hcomposes _ _ houter hinner, by decide, by decide,
    (hsigned (by decide) (by decide) (by decide) _ hinner).1⟩

end SiteAudit.Exclude
