/-
  Rule lines and their patterns.

  * `patternOfLine`: the pattern of a line, without the negation in front and the
    blanks at the end.
  * `ofLine_eq`: the rule of a line is that of its pattern.
  * `answer_of_pattern`: what it says of a path is what the names of the pattern say.
-/
import SiteAudit.Proofs.Exclude.Directory
import SiteAudit.Proofs.Text.Blank

namespace SiteAudit.Exclude

open Text (isBlank splitOn startsWith trimRight)

variable {front line pattern s : Text}

/-! ## Blanks at the end -/

theorem exists_blanks (s : Text) : ∃ blanks, s = withoutTrailingBlanks s ++ blanks ∧ ∀ c ∈ blanks, isBlank c = true := by
  rw [withoutTrailingBlanks]
  split
  · exact ⟨[], by simp, by simp⟩
  · exact Text.exists_trimRight_blanks s

/-- What stands in front of a text that stays, stays. -/
theorem withoutTrailingBlanks_append (h : withoutTrailingBlanks s ≠ []) :
    withoutTrailingBlanks (front ++ s) = front ++ withoutTrailingBlanks s := by
  have hends : Text.endsWith ['\\', ' '] (front ++ s) = Text.endsWith ['\\', ' '] s := by
    rw [Text.endsWith, Text.endsWith, List.reverse_append]
    rcases hs : s.reverse with _ | ⟨c, _ | ⟨d, rest⟩⟩
    · obtain rfl : s = [] := by simpa using hs
      exact absurd rfl h
    · obtain rfl : s = [c] := by simpa using congrArg List.reverse hs
      have hc : c ≠ ' ' := by
        rintro rfl
        exact h rfl
      simp [startsWith, Text.dropExact?, Ne.symm hc]
    · by_cases hc : c = ' ' <;> by_cases hd : d = '\\' <;>
        simp [startsWith, Text.dropExact?, hc, hd, eq_comm]
  rw [withoutTrailingBlanks] at h
  rw [withoutTrailingBlanks, withoutTrailingBlanks, hends]
  split
  · rfl
  · next hno =>
    rw [if_neg hno] at h
    exact Text.trimRight_append h

theorem exists_withoutTrailingBlanks {c : Char} (hc : isBlank c = false) (front s : Text) :
    ∃ t, withoutTrailingBlanks (front ++ c :: s) = front ++ c :: t := by
  rw [withoutTrailingBlanks]
  split
  · exact ⟨s, rfl⟩
  · have hfirst := Text.trimRight_cons hc s
    exact ⟨trimRight s, by rw [Text.trimRight_append (by simp [hfirst]), hfirst]⟩

/-! ## Patterns -/

/-- The line without a negation in front. -/
def unnegated (line : Text) : Text :=
  (Text.dropExact? ['!'] line).getD line

/-- The pattern of a line. -/
def patternOfLine (line : Text) : Text :=
  withoutTrailingBlanks (unnegated line)

/-- The names of a pattern as they are matched. -/
def patternNames (pattern : Text) : List Text :=
  joinedRuns (spelledOut (anchoredNames (splitOn '/' pattern)))

/-- The pattern ends with a slash. -/
def asksForDirectory (pattern : Text) : Bool :=
  (splitOn '/' pattern).getLast? == some []

/-- The weight of a last run of directories. -/
def slashWeight (pattern : Text) : Weight :=
  if asksForDirectory pattern then .viaDirectory else .direct

theorem ofLine_eq (hcomment : startsWith ['#'] line = false) (hne : patternOfLine line ≠ [])
    (hslash : patternOfLine line ≠ ['/']) :
    Rule.ofLine line = ruleOfPattern line (startsWith ['!'] line) (patternOfLine line) := by
  rw [patternOfLine] at hne hslash ⊢
  cases line with
  | nil => exact absurd rfl hne
  | cons c line =>
    by_cases hc : c = '!'
    · subst hc
      have hunnegated : unnegated ('!' :: line) = line := rfl
      rw [hunnegated] at hne ⊢
      have htrimmed : withoutTrailingBlanks (['!'] ++ line) = ['!'] ++ withoutTrailingBlanks line :=
        withoutTrailingBlanks_append hne
      rw [List.singleton_append, List.singleton_append] at htrimmed
      rw [Rule.ofLine, htrimmed]
      rfl
    · have hunnegated : unnegated (c :: line) = c :: line := by
        simp [unnegated, Text.dropExact?, Ne.symm hc]
      rw [hunnegated] at hne hslash ⊢
      obtain ⟨blanks, hblanks, -⟩ := exists_blanks (c :: line)
      obtain ⟨d, t, ht⟩ := List.exists_cons_of_ne_nil hne
      rw [ht, List.cons_append] at hblanks
      obtain ⟨rfl, -⟩ := List.cons.inj hblanks
      have hhash : c ≠ '#' := by
        rintro rfl
        simp [startsWith, Text.dropExact?] at hcomment
      have hplain : startsWith ['!'] (c :: line) = false := by
        simp [startsWith, Text.dropExact?, Ne.symm hc]
      rw [ht] at hslash
      rw [Rule.ofLine, ht, hplain]
      split
      · next h => cases h
      · next h => exact absurd (List.cons.inj h).1 hhash
      · next h => exact absurd h hslash
      · next h => exact absurd (List.cons.inj h).1 hc
      · rfl

theorem ruleOfPattern_eq (line : Text) (negated : Bool) (hne : anchoredNames (splitOn '/' pattern) ≠ []) :
    ruleOfPattern line negated pattern =
      match shapeOf (slashWeight pattern) (asksForDirectory pattern) (patternNames pattern) with
      | .error .openBracket => .ok none
      | .error .lastBackslash => .error (.malformed line)
      | .ok shape => if shape.isOrdered then .ok (some ⟨negated, shape⟩) else .error .reversedRange := by
  rw [ruleOfPattern, if_neg hne]
  rfl

/-! ## Answers -/

/-- What a rule says of a path. -/
def Rule.answer (path : Text) (rule : Rule) : Bool × Option Weight :=
  (rule.negated, rule.weight? path)

/-- What a line says of a path, if it can be a rule. -/
def answerOfLine? (path line : Text) : Option (Option (Bool × Option Weight)) :=
  (Rule.ofLine line).toOption.map (Option.map (Rule.answer path))

/-- The answer of a rule with the given reading. -/
def answerOfReading? (negated : Bool) : Except GlobFault (Bool × Option Weight) →
    Option (Option (Bool × Option Weight))
  | .error .openBracket => some none
  | .error .lastBackslash => none
  | .ok (ordered, weight) => if ordered then some (some (negated, weight)) else none

theorem answer_of_pattern (line : Text) (negated : Bool) (path : Text) (hne : anchoredNames (splitOn '/' pattern) ≠ []) :
    (ruleOfPattern line negated pattern).toOption.map (Option.map (Rule.answer path)) =
      answerOfReading? negated ((shapeOf (slashWeight pattern) (asksForDirectory pattern)
        (patternNames pattern)).map (Shape.reading path)) := by
  rw [ruleOfPattern_eq line negated hne]
  cases shapeOf (slashWeight pattern) (asksForDirectory pattern) (patternNames pattern) with
  | error fault => cases fault <;> rfl
  | ok shape =>
    simp only [Except.map, Shape.reading, answerOfReading?]
    cases shape.isOrdered <;> rfl

end SiteAudit.Exclude
