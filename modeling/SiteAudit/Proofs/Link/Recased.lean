/-
  Looking a destination up in either case.

  * `accepts_smallAscii`: tokens take a path whatever the case of its ASCII letters.
  * `verdict_smallAscii`, `scheme_smallAscii`: verdict and scheme stay when the ASCII
    letters of the destination, and those of the templates, become small.
  * `lookup_recase`: so they are the same for all ways to write these letters, and so
    is the number of templates in the catalogue.
-/
import SiteAudit.Link.Destination
import SiteAudit.Proofs.Route.Alike
import SiteAudit.Proofs.Text.Recased
import SiteAudit.Proofs.Text.SmallForm

namespace SiteAudit

open Text

namespace Text

variable {d : Char} {v : Text}

/-! ## Signs stay where they are -/

theorem mem_smallAscii_iff (hd : isSign d = true) {s : Text} : d ∈ smallAscii s ↔ d ∈ s := by
  simp [smallAscii, toLower_eq_iff hd]

theorem bne_toLower (hd : isSign d = true) (c : Char) : (c.toLower != d) = (c != d) := by
  rw [Bool.eq_iff_iff, bne_iff_ne, bne_iff_ne, ne_eq, toLower_eq_iff hd]

theorem takeWhile_smallAscii (hd : isSign d = true) (s : Text) :
    (smallAscii s).takeWhile (· != d) = smallAscii (s.takeWhile (· != d)) := by
  have hsign : (· != d) ∘ Char.toLower = (· != d) := funext (bne_toLower hd)
  rw [smallAscii, List.takeWhile_map, hsign, smallAscii]

/-- Small ASCII letters have the small form of the letters, which keeps signs. -/
theorem startsWith_smallAscii (hv : v.all isSign = true) (s : Text) :
    startsWith v (smallAscii s) = startsWith v s := by
  rw [← startsWith_smallForm hv, smallForm, lower_smallAscii, ← smallForm, startsWith_smallForm hv]

theorem restsOfSome_smallAscii (hd : isSign d = true) (s : Text) :
    restsOfSome (· != d) (smallAscii s) = (restsOfSome (· != d) s).map smallAscii := by
  induction s with
  | nil => rfl
  | cons c s ih =>
    rw [smallAscii_cons, restsOfSome, restsOfSome, bne_toLower hd, ih]
    split <;> simp

end Text

/-! ## Paths -/

namespace Route

namespace Template

theorem Token.rests_smallAscii (token : Token) (s : Text) :
    token.rests (smallAscii s) = (token.rests s).map smallAscii := by
  cases token with
  | literal a =>
    cases s with
    | nil => rfl
    | cons c s =>
      rw [smallAscii_cons, rests, rests, sameLetter, sameLetter, letterClass_toLower]
      split <;> rfl
  | segment inside =>
    rw [rests, rests]
    split <;> exact restsOfSome_smallAscii rfl s

theorem accepts_smallAscii (items : List Token) (s : Text) : accepts items (smallAscii s) = accepts items s := by
  induction items generalizing s with
  | nil =>
    rw [accepts, accepts, Bool.eq_iff_iff]
    simp [smallAscii, List.map_eq_singleton_iff, toLower_eq_iff (d := '/') rfl]
  | cons token items ih =>
    simp only [accepts, Token.rests_smallAscii, List.any_map, Function.comp_def, ih]

theorem matchesPath_smallAscii (template path : Text) :
    matchesPath (smallAscii template) (smallAscii path) = matchesPath template path := by
  rw [matchesPath_eq_of_sameLetters (sameLetters_smallAscii template), matchesPath, accepts_smallAscii, matchesPath]

theorem rooted_smallAscii (s : Text) : rooted (smallAscii s) = smallAscii (rooted s) := by
  cases s with
  | nil => rfl
  | cons c s =>
    rw [smallAscii_cons, rooted_cons, rooted_cons]
    simp only [toLower_eq_iff (d := '/') rfl]
    split <;> rfl

end Template

theorem Catalogue.covers_smallAscii (catalogue : Catalogue) (path : Text) :
    Catalogue.covers (catalogue.map smallAscii) (smallAscii path) = catalogue.covers path := by
  simp only [covers, List.any_map, Function.comp_def, Template.matchesPath_smallAscii]

/-- The routes with the ASCII letters at some places of their templates in the other case. -/
def recaseTemplates (which : Nat → Nat → Bool) (routes : List Route) : List Route :=
  routes.mapIdx fun i route => { route with template := recase (which i) route.template }

theorem Catalogue.ofRoutes_recaseTemplates (which : Nat → Nat → Bool) (routes : List Route) :
    (ofRoutes (recaseTemplates which routes)).map smallAscii = (ofRoutes routes).map smallAscii := by
  rw [ofRoutes, ofRoutes, ← firstSpellings_smallAscii, ← firstSpellings_smallAscii]
  congr 1
  induction routes generalizing which with
  | nil => rfl
  | cons route routes ih =>
    have hrest := ih fun i => which (i + 1)
    rw [recaseTemplates] at hrest ⊢
    rw [List.mapIdx_cons]
    cases hlive : route.live with
    | false => simpa [hlive] using hrest
    | true => simpa [hlive, smallAscii_recase] using hrest

end Route

namespace Link.Destination

theorem sitePath_smallAscii (url : Text) : sitePath (smallAscii url) = smallAscii (sitePath url) := by
  rw [sitePath, sitePath, withoutQuery, withoutQuery, trim_smallAscii, takeWhile_smallAscii rfl,
    takeWhile_smallAscii rfl, Route.Template.rooted_smallAscii]

theorem verdict_smallAscii (catalogue : Route.Catalogue) (url : Text) :
    verdict (catalogue.map smallAscii) (smallAscii url) = verdict catalogue url := by
  have hexternal : isExternal (smallAscii url) = isExternal url := by
    rw [isExternal, isExternal, trim_smallAscii, lower_smallAscii]
  rw [verdict, verdict, hexternal, sitePath_smallAscii, Route.Catalogue.covers_smallAscii]

theorem scheme_smallAscii (url : Text) : scheme (smallAscii url) = scheme url := by
  have hslashes := startsWith_smallAscii (v := ['/', '/']) rfl (trim url)
  have hhead {s : Text} : smallAscii s = [] ↔ s = [] := List.map_eq_nil_iff
  simp [scheme, trim_smallAscii, takeWhile_smallAscii, lower_smallAscii, hslashes, hhead, mem_smallAscii_iff, isSign]

/-- **The case of ASCII letters does not matter**, neither in the destination nor in the
    templates. -/
theorem lookup_recase (routes : List Route) (url : Text) (which : Nat → Nat → Bool) (whichOfUrl : Nat → Bool) :
    verdict (Route.Catalogue.ofRoutes (Route.recaseTemplates which routes)) (recase whichOfUrl url) =
        verdict (Route.Catalogue.ofRoutes routes) url ∧
      (Route.Catalogue.ofRoutes (Route.recaseTemplates which routes)).length =
        (Route.Catalogue.ofRoutes routes).length ∧
      scheme (recase whichOfUrl url) = scheme url := by
  have hcatalogue := Route.Catalogue.ofRoutes_recaseTemplates which routes
  have hurl := smallAscii_recase whichOfUrl url
  refine ⟨?_, ?_, ?_⟩
  · rw [← verdict_smallAscii, hcatalogue, hurl, verdict_smallAscii]
  · simpa using congrArg List.length hcatalogue
  · rw [← scheme_smallAscii, hurl, scheme_smallAscii]

end Link.Destination

end SiteAudit
