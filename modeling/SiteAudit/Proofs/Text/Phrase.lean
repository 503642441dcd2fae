/-
  Phrases: a word, a sign and a quoted value.

  Anchors, calls and roles name what they mean in one way: by a word in any case, a
  sign and a value between quotes of one kind, with blanks around the sign.

  * `IsPhrase word sign value phrase`: the text `phrase` is one, from the first letter
    of the word to the closing quote.
  * `phrase?_eq_some_iff`: the reader of phrases reads them, whole, and nothing else.
-/
import SiteAudit.Proofs.Text.Blank
import SiteAudit.Proofs.Text.Leftmost
import SiteAudit.Proofs.Text.Spelling
import SiteAudit.Text.Phrase

namespace SiteAudit.Text

variable {before : Option Char} {sign quote : Char} {s word value phrase rest : Text}

/-- The text is the word in any case, the sign and the value in quotes, with blanks
    before and behind the sign. -/
def IsPhrase (word : Text) (sign : Char) (value phrase : Text) : Prop :=
  ∃ spelled blanks gap quote, phrase = spelled ++ blanks ++ sign :: gap ++ quote :: value ++ [quote] ∧
    SameLetters word spelled ∧ (∀ c ∈ blanks, isBlank c = true) ∧ (∀ c ∈ gap, isBlank c = true) ∧
    (quote = '"' ∨ quote = '\'') ∧ quote ∉ value

theorem IsPhrase.ne_nil (h : IsPhrase word sign value phrase) : phrase ≠ [] := by
  obtain ⟨spelled, blanks, gap, quote, rfl, -⟩ := h
  simp

theorem IsPhrase.head?_append (h : IsPhrase word sign value phrase) (rest : Text) :
    (phrase ++ rest).head? = phrase.head? := by
  obtain ⟨c, t, rfl⟩ := List.exists_cons_of_ne_nil h.ne_nil
  rfl

theorem IsPhrase.subset (h : IsPhrase word sign value phrase) : value ⊆ phrase := by
  obtain ⟨spelled, blanks, gap, quote, rfl, -⟩ := h
  intro c hc
  simp [hc]

theorem quotedValue?_eq_some_iff : quotedValue? s = some (value, rest) ↔
    ∃ quote, (quote = '"' ∨ quote = '\'') ∧ s = quote :: (value ++ quote :: rest) ∧ quote ∉ value := by
  constructor
  · intro h
    unfold quotedValue? at h
    split at h
    · obtain ⟨rfl, hvalue⟩ := upTo?_eq_some_iff.1 h
      exact ⟨'"', Or.inl rfl, rfl, hvalue⟩
    · obtain ⟨rfl, hvalue⟩ := upTo?_eq_some_iff.1 h
      exact ⟨'\'', Or.inr rfl, rfl, hvalue⟩
    · simp at h
  · rintro ⟨quote, rfl | rfl, rfl, hvalue⟩
    · exact upTo?_eq_some_iff.2 ⟨rfl, hvalue⟩
    · exact upTo?_eq_some_iff.2 ⟨rfl, hvalue⟩

theorem isBlank_quote (h : quote = '"' ∨ quote = '\'') : isBlank quote = false := by
  rcases h with rfl | rfl <;> rfl

/-! ## Reading -/

theorem phrase?_eq_some_iff_signedValue? {found : Text × Text} : phrase? word sign before s = some found ↔
    isBoundary before s.head? = true ∧ ∃ afterWord, dropWord? word s = some afterWord ∧
      signedValue? sign afterWord = some found := by
  rw [phrase?, Option.ite_none_right_eq_some, Option.bind_eq_some_iff]

theorem signedValue?_eq_some_iff {found : Text × Text} : signedValue? sign s = some found ↔
    ∃ behind, trimLeft s = sign :: behind ∧ quotedValue? (trimLeft behind) = some found := by
  constructor
  · intro h
    unfold signedValue? at h
    split at h
    · next c behind hbehind =>
      obtain ⟨rfl, hquoted⟩ := Option.ite_none_right_eq_some.1 h
      exact ⟨behind, hbehind, hquoted⟩
    · simp at h
  · rintro ⟨behind, hbehind, hquoted⟩
    simp only [signedValue?, hbehind, if_true, hquoted]

/-- **What is read is a phrase**, and any phrase is read. -/
theorem phrase?_eq_some_iff (hsign : isBlank sign = false) : phrase? word sign before s = some (value, rest) ↔
    ∃ phrase, s = phrase ++ rest ∧ isBoundary before phrase.head? = true ∧ IsPhrase word sign value phrase := by
  rw [phrase?_eq_some_iff_signedValue?]
  constructor
  · rintro ⟨hboundary, afterWord, hword, hsigned⟩
    obtain ⟨spelled, rfl, hspelled⟩ := dropWord?_iff_sameLetters.1 hword
    obtain ⟨behind, hbehind, hquoted⟩ := signedValue?_eq_some_iff.1 hsigned
    obtain ⟨blanks, rfl, hblanks⟩ := (trimLeft_eq_cons_iff hsign).1 hbehind
    obtain ⟨quote, hquote, htrim, hvalue⟩ := quotedValue?_eq_some_iff.1 hquoted
    obtain ⟨gap, rfl, hgap⟩ := (trimLeft_eq_cons_iff (isBlank_quote hquote)).1 htrim
    have hphrase : IsPhrase word sign value (spelled ++ blanks ++ sign :: gap ++ quote :: value ++ [quote]) :=
      ⟨spelled, blanks, gap, quote, rfl, hspelled, hblanks, hgap, hquote, hvalue⟩
    refine ⟨_, by simp, ?_, hphrase⟩
    rw [← hphrase.head?_append rest]
    simpa using hboundary
  · rintro ⟨phrase, rfl, hboundary, hphrase⟩
    refine ⟨by rwa [hphrase.head?_append], ?_⟩
    obtain ⟨spelled, blanks, gap, quote, rfl, hspelled, hblanks, hgap, hquote, hvalue⟩ := hphrase
    refine ⟨blanks ++ sign :: (gap ++ quote :: (value ++ quote :: rest)), ?_, ?_⟩
    · exact dropWord?_iff_sameLetters.2 ⟨spelled, by simp, hspelled⟩
    · have hquoted : trimLeft (gap ++ quote :: (value ++ quote :: rest)) = quote :: (value ++ quote :: rest) :=
        (trimLeft_eq_cons_iff (isBlank_quote hquote)).2 ⟨gap, rfl, hgap⟩
      refine signedValue?_eq_some_iff.2 ⟨_, (trimLeft_eq_cons_iff hsign).2 ⟨blanks, rfl, hblanks⟩, ?_⟩
      rw [hquoted]
      exact quotedValue?_eq_some_iff.2 ⟨quote, hquote, rfl, hvalue⟩

theorem phrase?_advances (hsign : isBlank sign = false) : (phrase? word sign).Advances := by
  intro before s value rest h
  obtain ⟨phrase, rfl, -, hphrase⟩ := (phrase?_eq_some_iff hsign).1 h
  exact ⟨phrase, hphrase.ne_nil, rfl⟩

end SiteAudit.Text
