/-
  Case tables: runs of letters whose other case lies at a constant distance,
  and the letters whose other case is several characters long.
-/
import SiteAudit.Text.Basic

namespace SiteAudit.Text

/-- The letters from `first` to `last` in steps of `step`, whose other case lies
    `shift` code points further. -/
structure CaseRun where
  first : Nat
  last : Nat
  step : Nat
  shift : Int

/-- The code point belongs to the run. -/
def CaseRun.has (run : CaseRun) (n : Nat) : Bool :=
  decide (run.first ≤ n) && decide (n ≤ run.last) && (n - run.first) % run.step == 0

/-- The letter that the runs assign to a character; a character of no run stays. -/
def shiftBy (runs : List CaseRun) (c : Char) : Char :=
  match runs.find? (·.has c.toNat) with
  | some run => Char.ofNat (c.toNat + run.shift).toNat
  | none => c

/-- Letters, by code point, whose other case is several characters long. -/
abbrev LongCases := List (Nat × List Nat)

/-- The other case of a letter: from the table of long ones, else from the runs. -/
def longShiftBy (long : LongCases) (runs : List CaseRun) (c : Char) : Text :=
  match long.lookup c.toNat with
  | some codes => codes.map Char.ofNat
  | none => [shiftBy runs c]

end SiteAudit.Text
