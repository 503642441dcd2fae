/-
  Templates that are letter by letter the same match the same paths.
-/
import SiteAudit.Proofs.Text.Spelling
import SiteAudit.Route.Template

namespace SiteAudit.Route.Template

open Text

/-- The two tokens take the same pieces of a path. -/
def Token.Alike : Token → Token → Prop
  | literal a, literal b => sameLetter a b = true
  | segment i, segment j => isCatchAll i = isCatchAll j
  | _, _ => False

theorem Token.Alike.rests_eq {a b : Token} (h : a.Alike b) (s : Text) : a.rests s = b.rests s := by
  cases a with
  | literal a =>
    cases b with
    | literal b =>
      have h : letterClass a = letterClass b := by simpa [Alike, sameLetter] using h
      cases s <;> simp [rests, sameLetter, h]
    | segment j => exact h.elim
  | segment i =>
    cases b with
    | literal b => exact h.elim
    | segment j => simp only [rests, show isCatchAll i = isCatchAll j from h]

theorem accepts_eq_of_alike {as bs : List Token} (h : List.Forall₂ Token.Alike as bs) :
    accepts as = accepts bs := by
  induction h with
  | nil => rfl
  | cons hab _ ih => funext s; simp only [accepts, hab.rests_eq, ih]

/-! ## Reading the same tokens -/

variable {s t : Text}

/-- Braces, stars and slashes have one spelling. -/
theorem eq_iff_of_sameLetter {a b c : Char} (h : sameLetter a b = true) (hc : isSign c = true) :
    a = c ↔ b = c := by
  rw [← sameLetter_iff_eq hc, ← sameLetter_iff_eq hc]
  have h : letterClass a = letterClass b := by simpa [sameLetter] using h
  simp [sameLetter, h]

theorem isCatchAll_cons_cons_cons (a b c : Char) (s : Text) :
    Token.isCatchAll (a :: b :: c :: s) = (decide (a = '*') && decide (b = '*')) := by
  by_cases ha : a = '*' <;> by_cases hb : b = '*' <;> simp [Token.isCatchAll, ha, hb]

theorem isCatchAll_eq (h : SameLetters s t) : Token.isCatchAll s = Token.isCatchAll t := by
  match h with
  | .nil => rfl
  | .cons _ .nil => simp [Token.isCatchAll]
  | .cons _ (.cons _ .nil) => simp [Token.isCatchAll]
  | .cons h1 (.cons h2 (.cons _ _)) =>
    simp only [isCatchAll_cons_cons_cons, eq_iff_of_sameLetter (c := '*') h1 rfl,
      eq_iff_of_sameLetter (c := '*') h2 rfl]

theorem upTo?_sameLetters (h : SameLetters s t) :
    (upTo? '}' s = none ∧ upTo? '}' t = none) ∨
      ∃ i j r r', upTo? '}' s = some (i, r) ∧ upTo? '}' t = some (j, r') ∧ SameLetters i j := by
  induction h with
  | nil => exact Or.inl ⟨rfl, rfl⟩
  | @cons a b s t hab hst ih =>
    have hclose := eq_iff_of_sameLetter (c := '}') hab rfl
    by_cases ha : a = '}'
    · exact Or.inr ⟨[], [], s, t, by simp [upTo?, ha], by simp [upTo?, hclose.1 ha], .nil⟩
    · have hb : ¬ b = '}' := fun hb => ha (hclose.2 hb)
      rcases ih with ⟨h1, h2⟩ | ⟨i, j, r, r', h1, h2, hij⟩
      · exact Or.inl ⟨by simp [upTo?, ha, h1], by simp [upTo?, hb, h2]⟩
      · exact Or.inr ⟨a :: i, b :: j, r, r', by simp [upTo?, ha, h1], by simp [upTo?, hb, h2], .cons hab hij⟩

theorem segment?_sameLetters (h : SameLetters s t) :
    (segment? s = none ∧ segment? t = none) ∨
      ∃ i j, segment? s = some i ∧ segment? t = some j ∧ SameLetters i j := by
  cases h with
  | nil => exact Or.inl ⟨rfl, rfl⟩
  | @cons a b s t hab hst =>
    have hopen := eq_iff_of_sameLetter (c := '{') hab rfl
    by_cases ha : a = '{'
    · obtain rfl := hopen.1 ha
      subst ha
      rcases upTo?_sameLetters hst with ⟨h1, h2⟩ | ⟨i, j, r, r', h1, h2, hij⟩
      · exact Or.inl ⟨by simp [segment?, h1], by simp [segment?, h2]⟩
      · by_cases hi : i = []
        · subst hi
          cases hij
          exact Or.inl ⟨by simp [segment?, h1], by simp [segment?, h2]⟩
        · have hj : j ≠ [] := by rintro rfl; cases hij; exact hi rfl
          exact Or.inr ⟨i, j, by simp [segment?, h1, hi], by simp [segment?, h2, hj], hij⟩
    · have hb : ¬ b = '{' := fun hb => ha (hopen.2 hb)
      exact Or.inl ⟨by simp [segment?, ha], by simp [segment?, hb]⟩

theorem tokensFrom_alike : ∀ {s t : Text} (skip : Nat), SameLetters s t →
    List.Forall₂ Token.Alike (tokensFrom skip s) (tokensFrom skip t)
  | [], [], _, .nil => by simp [tokensFrom]
  | a :: s, b :: t, skip + 1, .cons _ hst => tokensFrom_alike skip hst
  | a :: s, b :: t, 0, .cons hab hst => by
    rcases segment?_sameLetters (.cons hab hst) with ⟨h1, h2⟩ | ⟨i, j, h1, h2, hij⟩
    · simp only [tokensFrom, h1, h2]
      exact .cons hab (tokensFrom_alike 0 hst)
    · simp only [tokensFrom, h1, h2, hij.length_eq]
      exact .cons (isCatchAll_eq hij) (tokensFrom_alike (j.length + 1) hst)

theorem rooted_cons (a : Char) (s : Text) : rooted (a :: s) = if a = '/' then a :: s else '/' :: a :: s := by
  by_cases ha : a = '/' <;> simp [rooted, ha]

theorem rooted_sameLetters (h : SameLetters s t) : SameLetters (rooted s) (rooted t) := by
  have hslash : sameLetter '/' '/' = true := by simp [sameLetter]
  cases h with
  | nil => exact .cons hslash .nil
  | @cons a b s t hab hst =>
    simp only [rooted_cons, eq_iff_of_sameLetter (c := '/') hab rfl]
    split
    · exact .cons hab hst
    · exact .cons hslash (.cons hab hst)

/-- **Templates that are letter by letter the same match the same paths.** -/
theorem matchesPath_eq_of_sameLetters (h : SameLetters s t) : matchesPath s = matchesPath t := by
  funext path
  simp only [matchesPath, tokens, accepts_eq_of_alike (tokensFrom_alike 0 (rooted_sameLetters h))]

end SiteAudit.Route.Template
