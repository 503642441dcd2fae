/-
  The scheme of a destination and its verdict.

  The verdict looks at the beginning of the whole destination in small letters,
  the scheme at the text before the first colon.

  * `isExternal_iff`: external is what begins with two slashes, what names a
    scheme of addresses, and what names a scheme of the web with two slashes
    after the colon.
  * `scheme_eq_slashes_iff`, `scheme_mem_iff`: when the scheme is one of these.
  * `verdict_follows_scheme`: so the verdict is external as the scheme and the
    text after the first colon say, and no link has a scheme and a verdict that
    contradict each other.
-/
import SiteAudit.Proofs.Link.Destination
import SiteAudit.Proofs.Link.Occurrence

namespace SiteAudit.Link

open Text

namespace Destination

variable {url : Text}

/-- Schemes of the web. -/
def webSchemes : List Text :=
  [['h', 't', 't', 'p'], ['h', 't', 't', 'p', 's']]

/-- Schemes of addresses to which something is sent. -/
def addressSchemes : List Text :=
  [['m', 'a', 'i', 'l', 't', 'o'], ['t', 'e', 'l']]

/-- Schemes that lead out of the site whatever follows them. -/
def outsideSchemes : List Text :=
  ['/', '/'] :: addressSchemes

/-- What follows the first colon of a destination. -/
def afterColon? (url : Text) : Option Text :=
  (upTo? ':' (trim url)).map (·.2)

/-! ## The beginning of the small form -/

theorem externalStarts_eq : externalStarts =
    webSchemes.map (· ++ ':' :: ['/', '/']) ++ ['/', '/'] :: addressSchemes.map (· ++ ':' :: []) :=
  rfl

theorem any_startsWith_iff (words : List Text) (v : Text) (hascii : ∀ w ∈ words, isAsciiWord w = true)
    (hcolon : ∀ w ∈ words, ':' ∉ w) (hv : v.all isSign = true) (s : Text) :
    (words.map (· ++ ':' :: v)).any (startsWith · (lower s)) = true ↔
      ∃ front rest, upTo? ':' s = some (front, rest) ∧ lower front ∈ words ∧ startsWith v rest = true := by
  simp only [List.any_map, List.any_eq_true, Function.comp_apply]
  constructor
  · rintro ⟨w, hw, h⟩
    obtain ⟨front, rest, hcut, rfl, hrest⟩ := (startsWith_lower_iff rfl (hascii w hw) (hcolon w hw) hv).1 h
    exact ⟨front, rest, hcut, hw, hrest⟩
  · rintro ⟨front, rest, hcut, hw, hrest⟩
    exact ⟨_, hw, (startsWith_lower_iff rfl (hascii _ hw) (hcolon _ hw) hv).2 ⟨front, rest, hcut, rfl, hrest⟩⟩

/-- **What lies outside the site**, by what stands before and after the first colon. -/
theorem isExternal_iff : isExternal url = true ↔ startsWith ['/', '/'] (trim url) = true ∨
    ∃ front rest, upTo? ':' (trim url) = some (front, rest) ∧
      (lower front ∈ addressSchemes ∨ lower front ∈ webSchemes ∧ startsWith ['/', '/'] rest = true) := by
  have hweb := any_startsWith_iff webSchemes ['/', '/'] (by decide) (by decide) rfl (trim url)
  have haddress := any_startsWith_iff addressSchemes [] (by decide) (by decide) rfl (trim url)
  have hslashes : startsWith ['/', '/'] (lower (trim url)) = startsWith ['/', '/'] (trim url) := by
    rw [startsWith_lower rfl, startsWith_smallForm rfl]
  rw [isExternal, externalStarts_eq, List.any_append, List.any_cons, Bool.or_eq_true, Bool.or_eq_true, hweb,
    haddress, hslashes]
  constructor
  · rintro (⟨front, rest, hcut, hfront, hrest⟩ | h | ⟨front, rest, hcut, hfront, -⟩)
    · exact Or.inr ⟨front, rest, hcut, Or.inr ⟨hfront, hrest⟩⟩
    · exact Or.inl h
    · exact Or.inr ⟨front, rest, hcut, Or.inl hfront⟩
  · rintro (h | ⟨front, rest, hcut, hfront | ⟨hfront, hrest⟩⟩)
    · exact Or.inr (Or.inl h)
    · exact Or.inr (Or.inr ⟨front, rest, hcut, hfront, rfl⟩)
    · exact Or.inl ⟨front, rest, hcut, hfront, hrest⟩

/-! ## The scheme -/

theorem scheme_eq (url : Text) : scheme url =
    if startsWith ['/', '/'] (trim url) then ['/', '/']
    else match upTo? ':' (trim url) with
      | some (front, _) => if front ≠ [] ∧ '/' ∉ front then lower front else relativeScheme
      | none => relativeScheme := by
  rcases hcut : upTo? ':' (trim url) with _ | ⟨front, rest⟩
  · have hcolon := upTo?_eq_none_iff.1 hcut
    simp [scheme, hcolon]
  · obtain ⟨hurl, hnone⟩ := upTo?_eq_some_iff.1 hcut
    have hfront : (trim url).takeWhile (· != ':') = front := by
      rw [hurl, List.takeWhile_append_of_pos (by grind)]
      simp
    have hcolon : ':' ∈ trim url := by simp [hurl]
    simp [scheme, hfront, hcolon]

theorem slash_mem_lower_iff {s : Text} : '/' ∈ lower s ↔ '/' ∈ s :=
  mem_lowerFrom_iff rfl

theorem scheme_eq_slashes_iff : scheme url = ['/', '/'] ↔ startsWith ['/', '/'] (trim url) = true := by
  rw [scheme_eq]
  refine ⟨fun h => ?_, fun h => if_pos h⟩
  by_contra hstart
  rw [if_neg hstart] at h
  split at h
  · next front _ _ =>
    split at h
    · next hfront => exact hfront.2 (slash_mem_lower_iff.1 (by simp [h]))
    · exact absurd h (by decide)
  · exact absurd h (by decide)

theorem scheme_mem_iff {words : List Text} (h : ∀ w ∈ words, w ≠ [] ∧ '/' ∉ w ∧ w ≠ relativeScheme) :
    scheme url ∈ words ↔
      ∃ front rest, upTo? ':' (trim url) = some (front, rest) ∧ lower front ∈ words := by
  rw [scheme_eq]
  constructor
  · intro hmem
    obtain ⟨-, hslash, hrelative⟩ := h _ hmem
    split at hmem
    · next hstart => simp [hstart] at hslash
    · next hstart =>
      rw [if_neg hstart] at hrelative
      split at hmem
      · next front rest hcut =>
        split at hmem
        · exact ⟨front, rest, hcut, hmem⟩
        · next hfront => simp [hcut, hfront] at hrelative
      · next hcut => simp [hcut] at hrelative
  · rintro ⟨front, rest, hcut, hmem⟩
    obtain ⟨hne, hslash, -⟩ := h _ hmem
    rw [slash_mem_lower_iff] at hslash
    obtain ⟨c, more, rfl⟩ : ∃ c more, front = c :: more := by
      refine List.exists_cons_of_ne_nil ?_
      rintro rfl
      exact hne rfl
    have hstart : ¬ startsWith ['/', '/'] (trim url) = true := by
      rw [(upTo?_eq_some_iff.1 hcut).1, startsWith_iff]
      rintro ⟨rest, heq⟩
      obtain ⟨rfl, -⟩ := List.cons.inj heq
      simp at hslash
    rw [if_neg hstart, hcut]
    simpa [hslash] using hmem

/-! ## Scheme and verdict -/

theorem verdict_eq_external_iff {catalogue : Route.Catalogue} :
    verdict catalogue url = .external ↔ isExternal url = true := by
  unfold verdict
  split
  · next h => simp [h]
  · next h => split <;> simp [h]

/-- What lies outside the site, by scheme and the text after the first colon. -/
theorem isExternal_iff_scheme : isExternal url = true ↔ scheme url ∈ outsideSchemes ∨
    scheme url ∈ webSchemes ∧ (afterColon? url).any (startsWith ['/', '/']) = true := by
  rw [isExternal_iff, outsideSchemes, List.mem_cons, scheme_eq_slashes_iff, scheme_mem_iff (by decide),
    scheme_mem_iff (by decide), or_assoc, afterColon?]
  refine or_congr_right ?_
  rcases upTo? ':' (trim url) with _ | ⟨front, rest⟩
  · simp
  · simp

end Destination

/-! ## Links -/

theorem Verdict.label_eq_external_iff {verdict : Verdict} :
    verdict.label = external.label ↔ verdict = external := by
  cases verdict <;> decide

theorem exists_of_mem_ofLines {catalogue : Route.Catalogue} {file : Text} {lines : List Text} {link : Link}
    (h : link ∈ ofLines catalogue file lines) : ∃ url, link.scheme = Destination.scheme url ∧
      link.verdict = (Destination.verdict catalogue url).label := by
  obtain ⟨line, -, number, hline⟩ := exists_of_mem_ofLinesFrom h
  obtain ⟨idiom, raw, -, rfl⟩ := exists_of_mem_ofLine hline
  exact ⟨trim raw, rfl, rfl⟩

open Destination (webSchemes outsideSchemes relativeScheme afterColon?) in
/-- **The verdict is external exactly as the scheme says**, and what follows the
    first colon.  So no link has a scheme that contradicts its verdict. -/
theorem verdict_follows_scheme (catalogue : Route.Catalogue) :
    (∀ url, Destination.verdict catalogue url = .external ↔ Destination.scheme url ∈ outsideSchemes ∨
      Destination.scheme url ∈ webSchemes ∧ (afterColon? url).any (startsWith ['/', '/']) = true) ∧
    ∀ file lines, ∀ link ∈ ofLines catalogue file lines,
      (link.verdict = Verdict.external.label → link.scheme ≠ relativeScheme) ∧
      (link.scheme ∈ outsideSchemes → link.verdict = Verdict.external.label) := by
  have hiff (url : Text) : Destination.verdict catalogue url = .external ↔ _ :=
    Destination.verdict_eq_external_iff.trans Destination.isExternal_iff_scheme
  refine ⟨hiff, fun file lines link hlink => ?_⟩
  obtain ⟨url, hscheme, hverdict⟩ := exists_of_mem_ofLines hlink
  rw [hscheme, hverdict, Verdict.label_eq_external_iff, hiff]
  refine ⟨?_, Or.inl⟩
  have hrelative : relativeScheme ∉ outsideSchemes ∧ relativeScheme ∉ webSchemes := by decide
  rintro (h | ⟨h, -⟩) heq
  · exact hrelative.1 (heq ▸ h)
  · exact hrelative.2 (heq ▸ h)

/-- An anchor with an address. -/
def addressLink : Link :=
  ofDestination [] [] 1 .href "Mailto:a@b".toList

/-- The anchor of an address has the scheme of one and leads out of the site. -/
theorem verdict_follows_scheme_address :
    addressLink ∈ ofLines [] [] ["<a href=\"Mailto:a@b\">".toList] ∧
      addressLink.scheme ∈ Destination.outsideSchemes ∧ addressLink.verdict = Verdict.external.label ∧
      addressLink.scheme ≠ Destination.relativeScheme := by
  have hlink : addressLink ∈ ofLines [] [] ["<a href=\"Mailto:a@b\">".toList] := by decide +kernel
  have hscheme : addressLink.scheme ∈ Destination.outsideSchemes := by decide +kernel
  obtain ⟨hrelative, houtside⟩ := (verdict_follows_scheme []).2 _ _ addressLink hlink
  exact ⟨hlink, hscheme, houtside hscheme, hrelative (houtside hscheme)⟩

end SiteAudit.Link
