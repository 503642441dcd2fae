/-
  What the program runs on.

  Some of what a run meets is settled neither by its arguments nor by the files: how
  many directories can be nested before the program has no room left to go further
  down, in which order a directory hands out its entries, and how many digits a number
  may have to be written.  In two more points releases differ: whether links are looked
  at when directories are gone through, and whether carriage returns are quoted in
  tables.  A `Platform` settles this.  What is defined over a platform is claimed of
  every platform.
-/
import SiteAudit.Files.Path

namespace SiteAudit

/-- What directories are gone through for. -/
inductive Errand where
  /-- To find the files that declare routes. -/
  | pages
  /-- To find the files in which links are looked for. -/
  | links
  /-- To find rule files. -/
  | rules
  /-- To make the directories above a report. -/
  | reports
  deriving DecidableEq

/-- What the program runs on. -/
class Platform where
  /-- How many directories, one within the other, an errand can go down below a root,
      or how many missing ones it can go up. -/
  maxDepth : Errand → Nat
  /-- What the program says when an errand has no room left. -/
  depthMessage : Errand → Text
  /-- The order in which entries, known by their names from a root, are come upon. -/
  arrange : List (List Text) → List (List Text)
  arrange_perm : ∀ names, (arrange names).Perm names
  /-- Going through directories, the program looks at every link, to see whether that
      leads to a directory. -/
  looksAtLinks : Bool
  /-- The greatest number of digits with which a number is written, if there is one. -/
  maxDigits : Option Nat
  /-- A field of a table that holds a carriage return stands in quotes. -/
  quotesReturns : Bool

namespace Platform

theorem mem_arrange_iff [Platform] {names : List Text} {all : List (List Text)} : names ∈ arrange all ↔ names ∈ all :=
  (arrange_perm all).mem_iff

/-- The number has no more digits than may be written. -/
def writes [Platform] (n : Int) : Bool :=
  maxDigits.all fun digits => decide ((Text.ofNat n.natAbs).length ≤ digits)

theorem writes_iff [Platform] {n : Int} :
    writes n = true ↔ ∀ digits, maxDigits = some digits → (Text.ofNat n.natAbs).length ≤ digits := by
  simp [writes, Option.all_eq_true]

namespace Usual

/-- The platform that is used unless something else is asked for. -/
scoped instance usual : Platform where
  maxDepth
    | .pages => 980
    | .links => 979
    | .rules => 980
    | .reports => 980
  depthMessage
    | .pages | .links => "maximum recursion depth exceeded".toList
    | .rules | .reports => "maximum recursion depth exceeded while calling a Python object".toList
  arrange := id
  arrange_perm := .refl
  looksAtLinks := false
  maxDigits := some 4300
  quotesReturns := true

end Usual

end Platform

end SiteAudit
