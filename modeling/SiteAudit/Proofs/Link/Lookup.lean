/-
  Looking a destination up among all routes, though of every name the catalogue
  keeps a single spelling.

  * `covers_ofRoutes_iff`: what counts are the live routes before which no live
    route of the same name stands.
  * `Faithful`: for templates of some kind the catalogue answers as every live
    route by itself would, whatever the order, and whatever else stands in the list.
  * `OneMatcherPerName`: templates of some kind that are one name match the same
    destinations.
  * `lookup_faithful`: the first holds exactly for the kinds of which the second
    holds.  It holds where letters fold to single letters, and fails as soon as
    a letter stands beside the several letters to which it folds.
-/
import SiteAudit.Proofs.Link.Destination
import SiteAudit.Proofs.Route.Alike
import SiteAudit.Proofs.Route.Cuts

namespace SiteAudit.Link.Lookup

open Text Route Route.Template Destination

variable {routes : List Route} {route : Route} {path url : Text} {admitted : Text → Prop}

/-! ## Routes that count -/

/-- A live route before which no live route of the same name stands. -/
def FirstOfName (routes : List Route) (route : Route) : Prop :=
  ∃ before after, routes = before ++ route :: after ∧ route.live = true ∧
    ∀ other ∈ before, other.live = true → sameName other.template route.template = false

theorem FirstOfName.mem (h : FirstOfName routes route) : route ∈ routes := by
  obtain ⟨before, after, rfl, -⟩ := h
  simp

theorem FirstOfName.live (h : FirstOfName routes route) : route.live = true := by
  obtain ⟨before, after, -, hlive, -⟩ := h
  exact hlive

theorem mem_ofRoutes_iff {template : Text} : template ∈ Catalogue.ofRoutes routes ↔
    ∃ route, FirstOfName routes route ∧ route.template = template := by
  rw [Catalogue.ofRoutes, mem_firstSpellings_iff]
  constructor
  · rintro ⟨before, after, heq, hfirst⟩
    obtain ⟨early, late, hlive, rfl, hlate⟩ := List.map_eq_append_iff.1 heq
    obtain ⟨route, late, rfl, rfl, rfl⟩ := List.map_eq_cons_iff.1 hlate
    obtain ⟨front, back, rfl, rfl, hback⟩ := List.filter_eq_append_iff.1 hlive
    obtain ⟨skipped, rest, rfl, hdead, hroute, rfl⟩ := List.filter_eq_cons_iff.1 hback
    refine ⟨route, ⟨front ++ skipped, rest, by simp, hroute, fun other hother hl => ?_⟩, rfl⟩
    rcases List.mem_append.1 hother with h | h
    · exact hfirst _ (List.mem_map_of_mem (List.mem_filter.2 ⟨h, hl⟩))
    · exact absurd hl (hdead other h)
  · rintro ⟨route, ⟨before, after, rfl, hlive, hfirst⟩, rfl⟩
    refine ⟨(before.filter (·.live)).map (·.template), (after.filter (·.live)).map (·.template),
      by simp [hlive], fun b hb => ?_⟩
    obtain ⟨other, hother, rfl⟩ := List.mem_map.1 hb
    obtain ⟨hmem, hl⟩ := List.mem_filter.1 hother
    exact hfirst other hmem hl

/-- **A path is covered by the routes that count.** -/
theorem covers_ofRoutes_iff : (Catalogue.ofRoutes routes).covers path = true ↔
    ∃ route, FirstOfName routes route ∧ matchesPath route.template path = true := by
  rw [Catalogue.covers, List.any_eq_true]
  constructor
  · rintro ⟨template, h, hm⟩
    obtain ⟨route, hfirst, rfl⟩ := mem_ofRoutes_iff.1 h
    exact ⟨route, hfirst, hm⟩
  · rintro ⟨route, hfirst, hm⟩
    exact ⟨route.template, mem_ofRoutes_iff.2 ⟨route, hfirst, rfl⟩, hm⟩

theorem verdict_eq_matched_iff (hurl : isExternal url = false) :
    Destination.verdict (Catalogue.ofRoutes routes) url = .matched ↔
      ∃ route, FirstOfName routes route ∧ matchesPath route.template (sitePath url) = true := by
  rw [← covers_ofRoutes_iff, Destination.verdict, hurl]
  cases (Catalogue.ofRoutes routes).covers (sitePath url) <;> simp

/-- Before or at a live route stands one of the same name that counts. -/
theorem exists_firstOfName (h : route ∈ routes) (hlive : route.live = true) :
    ∃ first, FirstOfName routes first ∧ sameName first.template route.template = true := by
  have hmem : route.template ∈ (routes.filter (·.live)).map (·.template) :=
    List.mem_map_of_mem (List.mem_filter.2 ⟨h, hlive⟩)
  obtain ⟨template, hkept, hsame⟩ := exists_mem_firstSpellings hmem
  obtain ⟨first, hfirst, rfl⟩ := mem_ofRoutes_iff.1 hkept
  exact ⟨first, hfirst, hsame⟩

/-! ## Kinds of templates -/

/-- For live routes with admitted templates the catalogue answers as they would
    one by one; further routes and another order take no match away. -/
structure Faithful (admitted : Text → Prop) : Prop where
  matched_iff : ∀ {routes : List Route} {url : Text},
    (∀ route ∈ routes, route.live = true → admitted route.template) → isExternal url = false →
    (Destination.verdict (Catalogue.ofRoutes routes) url = .matched ↔
      ∃ route ∈ routes, route.live = true ∧ matchesPath route.template (sitePath url) = true)
  matched_of_subset : ∀ {routes more : List Route} {url : Text}, routes ⊆ more →
    (∀ route ∈ more, route.live = true → admitted route.template) → isExternal url = false →
    Destination.verdict (Catalogue.ofRoutes routes) url = .matched →
    Destination.verdict (Catalogue.ofRoutes more) url = .matched

/-- Admitted templates that are one name match the same destinations. -/
def OneMatcherPerName (admitted : Text → Prop) : Prop :=
  ∀ s t, admitted s → admitted t → sameName s t = true →
    ∀ url, isExternal url = false → matchesPath s (sitePath url) = matchesPath t (sitePath url)

theorem OneMatcherPerName.matched_iff (h : OneMatcherPerName admitted)
    (hroutes : ∀ route ∈ routes, route.live = true → admitted route.template)
    (hurl : isExternal url = false) :
    Destination.verdict (Catalogue.ofRoutes routes) url = .matched ↔
      ∃ route ∈ routes, route.live = true ∧ matchesPath route.template (sitePath url) = true := by
  rw [verdict_eq_matched_iff hurl]
  constructor
  · rintro ⟨route, hfirst, hm⟩
    exact ⟨route, hfirst.mem, hfirst.live, hm⟩
  · rintro ⟨route, hmem, hlive, hm⟩
    obtain ⟨first, hfirst, hsame⟩ := exists_firstOfName hmem hlive
    refine ⟨first, hfirst, ?_⟩
    rw [h _ _ (hroutes first hfirst.mem hfirst.live) (hroutes route hmem hlive) hsame url hurl, hm]

theorem OneMatcherPerName.faithful (h : OneMatcherPerName admitted) : Faithful admitted where
  matched_iff := h.matched_iff
  matched_of_subset hsub hmore hurl hm := by
    obtain ⟨route, hmem, hlive, hmatch⟩ :=
      (h.matched_iff (fun route hr => hmore route (hsub hr)) hurl).1 hm
    exact (h.matched_iff hmore hurl).2 ⟨route, hsub hmem, hlive, hmatch⟩

/-- A live route with a given template, open to everyone. -/
def openRoute (template : Text) : Route :=
  { template, live := true, authorized := false, roles := [], file := [] }

/-- The catalogue of two live routes. -/
def pair (s t : Text) : Catalogue :=
  Catalogue.ofRoutes [openRoute s, openRoute t]

theorem pair_of_sameName {s t : Text} (h : sameName s t = true) :
    pair s t = Catalogue.ofRoutes [openRoute s] := by
  simp [pair, Catalogue.ofRoutes, openRoute, firstSpellings, h]

/-- The later of two spellings matches nothing that the earlier does not. -/
theorem Faithful.matchesPath_of_sameName (h : Faithful admitted) {s t : Text} (hs : admitted s)
    (ht : admitted t) (hsame : sameName s t = true) (hurl : isExternal url = false)
    (hm : matchesPath t (sitePath url) = true) : matchesPath s (sitePath url) = true := by
  have hpair : Destination.verdict (pair s t) url = .matched :=
    (h.matched_iff (by simp [openRoute, hs, ht]) hurl).2 ⟨openRoute t, by simp, rfl, hm⟩
  rw [pair_of_sameName hsame] at hpair
  obtain ⟨route, hmem, -, hmatch⟩ := (h.matched_iff (by simp [openRoute, hs]) hurl).1 hpair
  obtain rfl := List.mem_singleton.1 hmem
  exact hmatch

theorem Faithful.oneMatcherPerName (h : Faithful admitted) : OneMatcherPerName admitted := by
  intro s t hs ht hsame url hurl
  have hback : sameName t s = true := sameName_iff.2 (sameName_iff.1 hsame).symm
  rw [Bool.eq_iff_iff]
  exact ⟨h.matchesPath_of_sameName ht hs hback hurl, h.matchesPath_of_sameName hs ht hsame hurl⟩

/-! ## Letters that fold to several -/

/-- Spellings made of letters that fold to single letters match alike. -/
theorem oneMatcherPerName_of_foldsToOne
    (h : ∀ template, admitted template → ∀ c ∈ template, foldsToOne c = true) :
    OneMatcherPerName admitted := by
  intro s t hs ht hsame url _
  rw [matchesPath_eq_of_sameLetters (sameLetters_of_sameName (h s hs) (h t ht) hsame)]

theorem sitePath_letter {c : Char} (h : foldsToOne c = false) :
    isExternal ['/', c] = false ∧ sitePath ['/', c] = ['/', c] := by
  obtain ⟨hascii, hblank⟩ := not_ascii_of_foldsToOne h
  have hne (d : Char) (hd : d.toNat < 128) : c ≠ d := by
    rintro rfl
    omega
  constructor
  · rw [isExternal_cons_slash, trimRight_eq_self (by simpa using hblank)]
    simp [startsWith, dropExact?, (hne '/' (by decide)).symm]
  · refine sitePath_of_clean fun d hd => ?_
    obtain rfl := List.mem_singleton.1 hd
    exact ⟨hblank, hne '#' (by decide), hne '?' (by decide)⟩

/-- The letter by itself is no spelling of the letters to which it folds. -/
theorem not_oneMatcherPerName {c : Char} (h : foldsToOne c = false) (hletter : admitted ['/', c])
    (hfolded : admitted ('/' :: foldLetter c)) : ¬ OneMatcherPerName admitted := by
  intro hone
  obtain ⟨hurl, hpath⟩ := sitePath_letter h
  obtain ⟨hlength, hbrace⟩ := two_le_length_foldLetter h
  have hsame : sameName ['/', c] ('/' :: foldLetter c) = true := by
    have hfold := fold_foldLetter h
    rw [fold] at hfold
    simp [sameName, fold, hfold]
  have hown : matchesPath ['/', c] ['/', c] = true := by
    have hc : '{' ∉ [c] := by
      have := (not_ascii_of_foldsToOne h).1
      rintro hc
      obtain rfl := List.mem_singleton.1 hc
      simp at this
    exact (matchesPath_of_no_brace hc).2
      ⟨['/', c], .cons (by simp [sameLetter]) (.cons (by simp [sameLetter]) .nil), Or.inl rfl⟩
  have hother := hone _ _ hletter hfolded hsame _ hurl
  rw [hpath, hown] at hother
  obtain ⟨run, hrun, hcut⟩ := (matchesPath_of_no_brace hbrace).1 hother.symm
  have hlen := hrun.length_eq
  rcases hcut with hcut | hcut
  · have := congrArg List.length hcut
    simp only [List.length_cons, List.length_nil] at hlen this
    omega
  · have := congrArg List.length hcut
    simp only [List.length_cons, List.length_nil, List.length_append] at hlen this
    omega

/-! ## The catalogue beside its routes -/

/-- **When the catalogue stands for all of its routes.**  A destination is matched
    by a route that counts.  So the catalogue is faithful to the templates of a
    kind exactly if those that are one name match alike: it is if their letters
    fold to single letters, and it is not if a letter stands among them beside the
    several to which it folds. -/
theorem lookup_faithful (routes : List Route) (url : Text) (admitted : Text → Prop) :
    (Destination.verdict (Catalogue.ofRoutes routes) url = .matched ↔ isExternal url = false ∧
      ∃ route, FirstOfName routes route ∧ matchesPath route.template (sitePath url) = true) ∧
    (Faithful admitted ↔ OneMatcherPerName admitted) ∧
    ((∀ template, admitted template → ∀ c ∈ template, foldsToOne c = true) → Faithful admitted) ∧
    ∀ c, foldsToOne c = false → admitted ['/', c] → admitted ('/' :: foldLetter c) →
      ¬ Faithful admitted := by
  refine ⟨?_, ⟨Faithful.oneMatcherPerName, OneMatcherPerName.faithful⟩,
    fun h => (oneMatcherPerName_of_foldsToOne h).faithful, ?_⟩
  · cases hurl : isExternal url with
    | true => simp [Destination.verdict, hurl]
    | false => simp [verdict_eq_matched_iff hurl]
  · intro c hc hletter hfolded h
    exact not_oneMatcherPerName hc hletter hfolded h.oneMatcherPerName

/-- Behind a live route with a pair of s, one with a sharp s is lost: its own
    template matches the destination, and in front it would have been found. -/
theorem sharp_s_lost :
    isExternal ['/', 'ß'] = false ∧
      matchesPath (openRoute ['/', 'ß']).template (sitePath ['/', 'ß']) = true ∧
      Destination.verdict (pair ['/', 'ß'] ['/', 's', 's']) ['/', 'ß'] = .matched ∧
      Destination.verdict (pair ['/', 's', 's'] ['/', 'ß']) ['/', 'ß'] = .unknown := by
  decide +kernel

end SiteAudit.Link.Lookup
