/-
  Leftmost scanning for a form.

  A form is a reader that may look at the character before a place.  A scan
  goes through a text from left to right, records the first place where the
  form holds, goes on after what was read there, and so on: the finds are
  leftmost and do not overlap.

  * `finds form s` are the finds of a scan, with their offsets and widths;
  * `holds form s` says that the form holds at some place of the text.
-/
import SiteAudit.Text.Basic

namespace SiteAudit.Text

/-- A form is given the character before a place, if there is one, and the text
    from the place on.  Where it holds it answers what it reads and the text
    that follows. -/
abbrev Form (α : Type) := Option Char → Text → Option (α × Text)

/-- One find of a scan. -/
structure Find (α : Type) where
  /-- The offset of the first character read. -/
  start : Nat
  /-- The number of characters read. -/
  width : Nat
  /-- What was read. -/
  value : α
  deriving DecidableEq

/-- The offset just after a find. -/
def Find.stop {α : Type} (f : Find α) : Nat :=
  f.start + f.width

/-- The finds from a place on: `offset` is the place's offset, `before` the
    character before it, and the next `skip` characters belong to the previous
    find. -/
def findsFrom {α : Type} (form : Form α) : (offset : Nat) → (before : Option Char) →
    (skip : Nat) → Text → List (Find α)
  | _, _, _, [] => []
  | offset, _, skip + 1, c :: cs => findsFrom form (offset + 1) (some c) skip cs
  | offset, before, 0, c :: cs =>
    match form before (c :: cs) with
    | none => findsFrom form (offset + 1) (some c) 0 cs
    | some (value, rest) =>
      let width := (c :: cs).length - rest.length
      ⟨offset, width, value⟩ :: findsFrom form (offset + 1) (some c) (width - 1) cs

/-- The finds of a form in a text, from left to right. -/
def finds {α : Type} (form : Form α) (s : Text) : List (Find α) :=
  findsFrom form 0 none 0 s

/-- What the finds of a form read, from left to right. -/
def readings {α : Type} (form : Form α) (s : Text) : List α :=
  (finds form s).map (·.value)

/-- The form holds at some place from here on. -/
def holdsFrom {α : Type} (form : Form α) : (before : Option Char) → Text → Bool
  | _, [] => false
  | before, c :: cs => (form before (c :: cs)).isSome || holdsFrom form (some c) cs

/-- The form holds at some place of the text. -/
def holds {α : Type} (form : Form α) (s : Text) : Bool :=
  holdsFrom form none s

end SiteAudit.Text
