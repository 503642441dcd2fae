/-
  Destinations that lie outside the site, and destinations that begin with a slash.

  * `isExternal_eq`: the small form with one sigma tells what is external.
  * `isExternal_cons_slash`: a destination that begins with a slash is external
    exactly if a second slash follows.
  * `sitePath_of_clean`: a path without blanks, query and fragment is looked up
    as it stands.
-/
import Mathlib.Data.List.TakeWhile
import SiteAudit.Link.Destination
import SiteAudit.Proofs.Text.Blank
import SiteAudit.Proofs.Text.SmallForm

namespace SiteAudit.Link.Destination

open Text

variable {s : Text}

/-! ## Destinations outside the site -/

theorem isExternal_eq (url : Text) :
    isExternal url = externalStarts.any fun start => startsWith start (smallForm (trim url)) := by
  have hascii : ∀ start ∈ externalStarts, isAsciiWord start = true := by decide
  rw [isExternal, Bool.eq_iff_iff, List.any_eq_true, List.any_eq_true]
  refine exists_congr fun start => and_congr_right fun h => ?_
  rw [startsWith_lower (hascii start h)]

theorem isExternal_cons_slash (s : Text) : isExternal ('/' :: s) = startsWith ['/'] (trimRight s) := by
  rw [isExternal_eq, trim_cons rfl, smallForm_cons rfl, ← startsWith_smallForm rfl]
  simp [externalStarts, startsWith, dropExact?]

/-! ## Paths -/

/-- Nothing of the text is trimmed or cut off before it is looked up. -/
def IsClean (s : Text) : Prop :=
  ∀ c ∈ s, isBlank c = false ∧ c ≠ '#' ∧ c ≠ '?'

/-- Every character of a clean path stays, and so does the slash before it. -/
theorem takeWhile_ne_of_clean {d : Char} (hd : d ≠ '/') (h : ∀ c ∈ s, c ≠ d) :
    ('/' :: s).takeWhile (· != d) = '/' :: s := by
  refine List.takeWhile_eq_self_iff.2 fun c hc => ?_
  rcases List.mem_cons.1 hc with rfl | hc
  · simpa using hd.symm
  · simpa using h c hc

theorem sitePath_of_clean (h : IsClean s) : sitePath ('/' :: s) = '/' :: s := by
  have hfragment := takeWhile_ne_of_clean (d := '#') (by decide) fun c hc => (h c hc).2.1
  have hquery := takeWhile_ne_of_clean (d := '?') (by decide) fun c hc => (h c hc).2.2
  rw [sitePath, trim_cons (by decide), trimRight_eq_self fun c hc => (h c hc).1, withoutQuery,
    hfragment, hquery]
  rfl

end SiteAudit.Link.Destination
