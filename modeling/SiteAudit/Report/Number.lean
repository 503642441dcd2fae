/-
  Numbers in reports.

  A report shows the lines of links.  A platform can have a bound on the digits of a
  number; where a line has more, there is no report.
-/
import SiteAudit.Audit.Basic
import SiteAudit.Platform

namespace SiteAudit.Report

/-- A number has more digits than are written. -/
structure LongNumber where
  /-- The greatest number of digits. -/
  limit : Nat
  deriving DecidableEq

/-- The wording of the fault. -/
def LongNumber.message (fault : LongNumber) : Text :=
  "Exceeds the limit (".toList ++ Text.ofNat fault.limit ++
    " digits) for integer string conversion; use sys.set_int_max_str_digits() to increase the limit".toList

/-- The fault of showing the lines of an audit's links. -/
def numberFault? [Platform] (audit : Audit) : Option LongNumber :=
  if audit.links.all (Platform.writes ·.line) then none else Platform.maxDigits.map .mk

theorem numberFault?_eq_none_iff [Platform] {audit : Audit} :
    numberFault? audit = none ↔ ∀ link ∈ audit.links, Platform.writes link.line = true := by
  rw [numberFault?]
  split
  · next hall => simpa using hall
  · next hlong =>
    rw [List.all_eq_true] at hlong
    refine iff_of_false ?_ hlong
    rw [Option.map_eq_none_iff]
    intro hunbounded
    exact hlong fun link _ => Platform.writes_iff.2 fun digits hdigits => by simp [hunbounded] at hdigits

/-- A text that shows the lines of an audit's links, if they can be written. -/
def ifWritten [Platform] (audit : Audit) (text : Text) : Except LongNumber Text :=
  match numberFault? audit with
  | some fault => .error fault
  | none => .ok text

theorem ifWritten_eq_ok_iff [Platform] {audit : Audit} {text written : Text} :
    ifWritten audit text = .ok written ↔
      (∀ link ∈ audit.links, Platform.writes link.line = true) ∧ text = written := by
  rw [ifWritten, ← numberFault?_eq_none_iff]
  cases numberFault? audit <;> simp

end SiteAudit.Report
