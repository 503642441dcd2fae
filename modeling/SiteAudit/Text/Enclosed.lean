/-
  Readers for enclosed values: up to a closing character, and between quotes.

  A reader answers what it read and the text that follows.
-/
import SiteAudit.Text.Basic

namespace SiteAudit.Text

/-- The characters before the first `close`, and what follows that one. -/
def upTo? (close : Char) : Text → Option (Text × Text)
  | [] => none
  | c :: cs =>
    if c = close then some ([], cs)
    else (upTo? close cs).map fun (inside, rest) => (c :: inside, rest)

/-- A value between double quotes or between single quotes, possibly empty. -/
def quotedValue? : Text → Option (Text × Text)
  | '"' :: cs => upTo? '"' cs
  | '\'' :: cs => upTo? '\'' cs
  | _ => none

/-- What is read is followed by the closing character and does not hold it. -/
theorem upTo?_eq_some_iff {close : Char} {s inside rest : Text} :
    upTo? close s = some (inside, rest) ↔ s = inside ++ close :: rest ∧ close ∉ inside := by
  induction s generalizing inside with
  | nil => simp [upTo?]
  | cons c cs ih =>
    by_cases h : c = close
    · cases inside with
      | nil => simp [upTo?, h]
      | cons d ds => simp [upTo?, h]; grind
    · cases inside with
      | nil => simp [upTo?, h]
      | cons d ds => simp [upTo?, h, ih]; grind

theorem upTo?_eq_none_iff {close : Char} {s : Text} : upTo? close s = none ↔ close ∉ s := by
  induction s with
  | nil => simp [upTo?]
  | cons c cs ih => by_cases h : c = close <;> simp [upTo?, h, ih, Ne.symm]

end SiteAudit.Text
