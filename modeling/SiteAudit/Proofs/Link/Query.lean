/-
  Query and fragment.

  * `isExternal_append`: what stands behind a number sign or a question mark does
    not make a destination external, nor keep it from being so.
  * `withoutQuery_append`: it is cut off before the look-up.
  * `verdict_append`: so it does not take part in the verdict.
-/
import Mathlib.Data.List.TakeWhile
import SiteAudit.Proofs.Link.Destination

namespace SiteAudit.Link.Destination

open Text

variable {sep : Char} {url more : Text}

/-- The characters that end the path of a destination. -/
def separators : List Char :=
  ['#', '?']

theorem spec_of_mem_separators (hsep : sep ∈ separators) :
    isBlank sep = false ∧ isSign sep = true ∧ ∀ start ∈ externalStarts, sep ∉ start := by
  rcases List.mem_pair.1 hsep with rfl | rfl <;> decide

theorem isExternal_append (h : trim url = url) (hsep : sep ∈ separators) (more : Text) :
    isExternal (url ++ sep :: more) = isExternal url := by
  obtain ⟨hblank, hsign, hstarts⟩ := spec_of_mem_separators hsep
  rw [isExternal_eq, isExternal_eq, trim_append_cons h hblank, h, smallForm_append, smallForm_cons hsign,
    Bool.eq_iff_iff, List.any_eq_true, List.any_eq_true]
  refine exists_congr fun start => and_congr_right fun hstart => ?_
  rw [startsWith_append_cons (hstarts start hstart)]

theorem takeWhile_append_cons {p : Char → Bool} (hsep : p sep = false) (s t : Text) :
    (s ++ sep :: t).takeWhile p = s.takeWhile p := by
  induction s with
  | nil => simp [hsep]
  | cons c s ih => rw [List.cons_append, List.takeWhile_cons, List.takeWhile_cons, ih]

theorem withoutQuery_append (hsep : sep ∈ separators) (url more : Text) :
    withoutQuery (url ++ sep :: more) = withoutQuery url := by
  simp only [withoutQuery, List.takeWhile_takeWhile]
  refine takeWhile_append_cons ?_ url more
  rcases List.mem_pair.1 hsep with rfl | rfl <;> rfl

/-- **Query and fragment do not take part in the verdict.** -/
theorem verdict_append (catalogue : Route.Catalogue) (h : trim url = url) (more : Text) :
    verdict catalogue (url ++ '#' :: more) = verdict catalogue url ∧
      verdict catalogue (url ++ '?' :: more) = verdict catalogue url := by
  have happend {sep : Char} (hsep : sep ∈ separators) :
      verdict catalogue (url ++ sep :: more) = verdict catalogue url := by
    have hblank := (spec_of_mem_separators hsep).1
    rw [verdict, verdict, isExternal_append h hsep, sitePath, sitePath, trim_append_cons h hblank, h,
      withoutQuery_append hsep]
  exact ⟨happend (by decide), happend (by decide)⟩

/-- Slashes behind a separator make no host: the destination stays a path. -/
theorem verdict_append_slashes :
    trim "http:".toList = "http:".toList ∧
      verdict ["http:".toList] ("http:".toList ++ '#' :: "//host".toList) = .matched ∧
      verdict ["http:".toList] ("http:".toList ++ '?' :: "//host".toList) = .matched := by
  have htrim : trim "http:".toList = "http:".toList := by decide
  have hmatched : verdict ["http:".toList] "http:".toList = .matched := by decide +kernel
  obtain ⟨hfragment, hquery⟩ := verdict_append ["http:".toList] htrim "//host".toList
  exact ⟨htrim, hfragment.trans hmatched, hquery.trans hmatched⟩

end SiteAudit.Link.Destination
