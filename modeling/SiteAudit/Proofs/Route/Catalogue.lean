/-
  What a catalogue keeps of a list of routes.

  * `IsFirst routes place`: the place holds a live route before which no live route
    of the same name stands.
  * `ofRoutes_concat_of_first`, `ofRoutes_concat_of_not_first`: one more route adds
    its template if it is the first of its name, and nothing otherwise.
  * `IsCatalogue routes catalogue`: distinct names, one for every live route, spelled
    and ordered as at the first places.
  * `ofRoutes_keepsFirsts`: the catalogue of a list of routes is one; routes that are
    not live do not take part in it, and further routes only add to its end.
-/
import Mathlib.Data.List.Sort
import SiteAudit.Link.Destination
import SiteAudit.Proofs.Text.Spelling

namespace SiteAudit.Route.Catalogue

open Text Link

variable {routes more : List Route} {route : Route} {place : Nat} {url : Text}

/-! ## First places -/

/-- The place holds a live route before which no live route of the same name stands. -/
def IsFirst (routes : List Route) (place : Nat) : Prop :=
  ∃ route, routes[place]? = some route ∧ route.live = true ∧
    ∀ earlier < place, ∀ other, routes[earlier]? = some other → other.live = true →
      sameName other.template route.template = false

/-- A live route of the same name is among the routes. -/
def IsKnown (routes : List Route) (route : Route) : Prop :=
  ∃ other ∈ routes, other.live = true ∧ sameName other.template route.template = true

theorem IsFirst.lt_length (h : IsFirst routes place) : place < routes.length := by
  obtain ⟨route, hroute, -⟩ := h
  exact (List.getElem?_eq_some_iff.1 hroute).1

theorem isFirst_append_iff (h : place < routes.length) : IsFirst (routes ++ more) place ↔ IsFirst routes place := by
  have hsame {earlier : Nat} (hearlier : earlier ≤ place) : (routes ++ more)[earlier]? = routes[earlier]? :=
    List.getElem?_append_left (Nat.lt_of_le_of_lt hearlier h)
  simp only [IsFirst, hsame (Nat.le_refl place)]
  refine exists_congr fun route => and_congr_right fun _ => and_congr_right fun _ => ?_
  exact forall_congr' fun earlier => imp_congr_right fun hearlier => by rw [hsame (Nat.le_of_lt hearlier)]

theorem isFirst_length_iff : IsFirst (routes ++ [route]) routes.length ↔ route.live = true ∧ ¬ IsKnown routes route := by
  have hbefore {earlier : Nat} (h : earlier < routes.length) : (routes ++ [route])[earlier]? = routes[earlier]? :=
    List.getElem?_append_left h
  constructor
  · rintro ⟨first, hfirst, hlive, hnone⟩
    obtain rfl : route = first := by simpa using hfirst
    refine ⟨hlive, fun ⟨other, hother, hl, hsame⟩ => ?_⟩
    obtain ⟨earlier, hearlier⟩ := List.mem_iff_getElem?.1 hother
    have hlt := (List.getElem?_eq_some_iff.1 hearlier).1
    have := hnone earlier hlt other ((hbefore hlt).trans hearlier) hl
    simp [hsame] at this
  · rintro ⟨hlive, hknown⟩
    refine ⟨route, by simp, hlive, fun earlier hlt other hother hl => Bool.eq_false_iff.2 fun hsame => ?_⟩
    rw [hbefore hlt] at hother
    exact hknown ⟨other, List.mem_of_getElem? hother, hl, hsame⟩

theorem isFirst_concat_iff : IsFirst (routes ++ [route]) place ↔
    IsFirst routes place ∨ place = routes.length ∧ route.live = true ∧ ¬ IsKnown routes route := by
  rcases Nat.lt_trichotomy place routes.length with h | rfl | h
  · rw [isFirst_append_iff h]
    exact (or_iff_left fun ⟨heq, _⟩ => Nat.ne_of_lt h heq).symm
  · rw [isFirst_length_iff, and_iff_right rfl]
    exact (or_iff_right fun hfirst => Nat.lt_irrefl _ hfirst.lt_length).symm
  · refine iff_of_false (fun hfirst => ?_) ?_
    · have := hfirst.lt_length
      simp only [List.length_append, List.length_cons, List.length_nil] at this
      omega
    · rintro (hfirst | ⟨rfl, -⟩)
      · exact Nat.lt_asymm h hfirst.lt_length
      · exact Nat.lt_irrefl _ h

/-! ## One more route -/

theorem ofRoutes_append (routes more : List Route) : ofRoutes (routes ++ more) = ofRoutes routes ++
    (ofRoutes more).filter fun template =>
      !((routes.filter (·.live)).map (·.template)).any fun other => sameName other template := by
  rw [ofRoutes, List.filter_append, List.map_append, firstSpellings_append]
  rfl

/-- **One more route adds its template if it is the first of its name.** -/
theorem ofRoutes_concat_of_first (hlive : route.live = true) (hknown : ¬ IsKnown routes route) :
    ofRoutes (routes ++ [route]) = ofRoutes routes ++ [route.template] := by
  have hnew : ofRoutes [route] = [route.template] := by simp [ofRoutes, hlive, firstSpellings]
  rw [ofRoutes_append, hnew, List.filter_cons_of_pos, List.filter_nil]
  simpa [IsKnown] using hknown

theorem ofRoutes_concat_of_not_first (h : ¬ (route.live = true ∧ ¬ IsKnown routes route)) :
    ofRoutes (routes ++ [route]) = ofRoutes routes := by
  rw [ofRoutes_append]
  by_cases hlive : route.live = true
  · have hknown : IsKnown routes route := not_not.1 fun hknown => h ⟨hlive, hknown⟩
    simpa [ofRoutes, hlive, firstSpellings, IsKnown] using hknown
  · simp [ofRoutes, hlive, firstSpellings]

/-! ## Catalogues -/

/-- A catalogue of the routes: no two templates are spellings of one name, the
    template of every live route is a spelling of exactly one of them, and they are
    the templates at the first places, in order. -/
structure IsCatalogue (routes : List Route) (catalogue : Catalogue) : Prop where
  distinct : DistinctNames catalogue
  complete : ∀ route ∈ routes, route.live = true →
    ∃! template, template ∈ catalogue ∧ sameName template route.template = true
  firsts : ∃ places : List Nat, places.Pairwise (· < ·) ∧ (∀ place, place ∈ places ↔ IsFirst routes place) ∧
    catalogue.map some = places.map fun place => routes[place]?.map (·.template)

theorem exists_firsts (routes : List Route) : ∃ places : List Nat, places.Pairwise (· < ·) ∧
    (∀ place, place ∈ places ↔ IsFirst routes place) ∧
    (ofRoutes routes).map some = places.map fun place => routes[place]?.map (·.template) := by
  induction routes using List.reverseRecOn with
  | nil => exact ⟨[], .nil, by simp [IsFirst], rfl⟩
  | append_singleton routes route ih =>
    obtain ⟨places, horder, hfirst, hspelled⟩ := ih
    have hspelled : (ofRoutes routes).map some =
        places.map fun place => (routes ++ [route])[place]?.map (·.template) := by
      rw [hspelled]
      refine List.map_congr_left fun place hplace => ?_
      rw [List.getElem?_append_left ((hfirst place).1 hplace).lt_length]
    by_cases hnew : route.live = true ∧ ¬ IsKnown routes route
    · refine ⟨places ++ [routes.length], ?_, fun place => ?_, ?_⟩
      · refine List.pairwise_append.2 ⟨horder, List.pairwise_singleton _ _, fun place hplace last hlast => ?_⟩
        rw [List.mem_singleton.1 hlast]
        exact ((hfirst place).1 hplace).lt_length
      · rw [isFirst_concat_iff, List.mem_append, hfirst, List.mem_singleton, and_iff_left hnew]
      · rw [ofRoutes_concat_of_first hnew.1 hnew.2, List.map_append, hspelled]
        simp
    · refine ⟨places, horder, fun place => ?_, ?_⟩
      · rw [isFirst_concat_iff, hfirst, or_iff_left fun h => hnew h.2]
      · rwa [ofRoutes_concat_of_not_first hnew]

theorem isCatalogue_ofRoutes (routes : List Route) : IsCatalogue routes (ofRoutes routes) where
  distinct := firstSpellings_distinct _
  complete := by
    intro route hroute hlive
    have hmem : route.template ∈ (routes.filter (·.live)).map (·.template) :=
      List.mem_map_of_mem (List.mem_filter.2 ⟨hroute, hlive⟩)
    obtain ⟨template, htemplate, hsame⟩ := exists_mem_firstSpellings hmem
    refine ⟨template, ⟨htemplate, hsame⟩, fun other ⟨hother, hsame'⟩ => ?_⟩
    refine (firstSpellings_distinct _).inj hother htemplate ?_
    rw [sameName_iff.1 hsame, sameName_iff.1 hsame']
  firsts := exists_firsts routes

/-- The first places and what stands there leave no choice. -/
theorem IsCatalogue.unique {catalogue other : Catalogue} (h : IsCatalogue routes catalogue)
    (hother : IsCatalogue routes other) : catalogue = other := by
  obtain ⟨places, horder, hfirst, hspelled⟩ := h.firsts
  obtain ⟨places', horder', hfirst', hspelled'⟩ := hother.firsts
  obtain rfl := horder.eq_of_mem_iff horder' fun place => (hfirst place).trans (hfirst' place).symm
  exact List.map_injective_iff.2 (Option.some_injective _) (hspelled.trans hspelled'.symm)

theorem ofRoutes_isPrefix_append (routes more : List Route) : ofRoutes routes <+: ofRoutes (routes ++ more) := by
  rw [ofRoutes_append]
  exact List.prefix_append _ _

theorem verdict_matched_of_longer {short long : Catalogue} (h : short <+: long)
    (hmatched : Destination.verdict short url = .matched) : Destination.verdict long url = .matched := by
  unfold Destination.verdict at hmatched ⊢
  split at hmatched
  · simp at hmatched
  · next hurl =>
    split at hmatched
    · next hcovers =>
      obtain ⟨template, htemplate, hmatches⟩ := List.any_eq_true.1 hcovers
      have hlong : long.covers (Destination.sitePath url) = true :=
        List.any_eq_true.2 ⟨template, h.subset htemplate, hmatches⟩
      rw [if_neg hurl, if_pos hlong]
    · simp at hmatched

/-- **A catalogue keeps the first of every name.**  The catalogue of a list of routes
    is what it should be, and nothing else is; it is the same for every list with the
    same live routes in the same order, wherever others stand; and further routes
    only add to its end, so that what is matched stays matched. -/
theorem ofRoutes_keepsFirsts (routes : List Route) :
    (∀ catalogue, IsCatalogue routes catalogue ↔ catalogue = ofRoutes routes) ∧
    (∀ others : List Route, others.filter (·.live) = routes.filter (·.live) → ofRoutes others = ofRoutes routes) ∧
    ∀ more : List Route, ofRoutes routes <+: ofRoutes (routes ++ more) ∧
      ∀ url, Destination.verdict (ofRoutes routes) url = .matched →
        Destination.verdict (ofRoutes (routes ++ more)) url = .matched := by
  refine ⟨fun catalogue => ?_, fun others h => by rw [ofRoutes, h, ofRoutes], fun more => ?_⟩
  · constructor
    · exact fun h => h.unique (isCatalogue_ofRoutes routes)
    · rintro rfl
      exact isCatalogue_ofRoutes routes
  · exact ⟨ofRoutes_isPrefix_append routes more, fun url => verdict_matched_of_longer (ofRoutes_isPrefix_append routes more)⟩

end SiteAudit.Route.Catalogue
