/-
  The roles of all routes, in whatever order routes and roles are given.

  * `Rearranged`: the same routes in another order, each with its roles in another
    order.
  * `Rearranged.roles_perm`: they ask for the same roles.
  * `roleVocabulary_canonical`: names are sorted to one list, and so are the roles of
    rearranged routes if no role is spelled in two ways.
-/
import SiteAudit.Proofs.Text.CaseOrder
import SiteAudit.Proofs.Text.Spelling
import SiteAudit.Route.Basic

namespace SiteAudit.Route

open Text

variable {routes middle others : List Route}

/-! ## Rearranged routes -/

/-- The same route, with its roles in some order. -/
def Reordered (route other : Route) : Prop :=
  ∃ roles, route.roles.Perm roles ∧ other = { route with roles }

/-- The same routes in some order, each with its roles in some order. -/
def Rearranged (routes others : List Route) : Prop :=
  ∃ middle, routes.Perm middle ∧ List.Forall₂ Reordered middle others

theorem roles_perm_of_reordered (h : List.Forall₂ Reordered routes others) :
    (routes.flatMap (·.roles)).Perm (others.flatMap (·.roles)) := by
  induction h with
  | nil => exact .refl []
  | cons hroute _ ih =>
    obtain ⟨roles, hperm, rfl⟩ := hroute
    exact hperm.append ih

theorem Rearranged.roles_perm (h : Rearranged routes others) :
    (routes.flatMap (·.roles)).Perm (others.flatMap (·.roles)) := by
  obtain ⟨middle, hperm, hreordered⟩ := h
  exact (hperm.flatMap_right (·.roles)).trans (roles_perm_of_reordered hreordered)

/-! ## Their roles -/

/-- **Sorting is canonical.**  A list of names is sorted to the one list that holds
    them in ascending order, however it is given; and if no role is spelled in two
    ways, the roles of routes do not depend on how routes and roles are arranged. -/
theorem roleVocabulary_canonical :
    (∀ names result : List Text, result = sortByCase names ↔ result.Perm names ∧ result.Pairwise RanksUpTo) ∧
    (∀ names others : List Text, sortByCase names = sortByCase others ↔ names.Perm others) ∧
    ∀ routes : List Route, OneSpelling (routes.flatMap (·.roles)) → ∀ others, Rearranged routes others →
      roleVocabulary others = roleVocabulary routes := by
  refine ⟨fun names result => eq_sortByCase_iff, fun names others => sortByCase_eq_iff_perm, ?_⟩
  intro routes hspelling others hrearranged
  have hkept := hspelling.firstSpellings_perm hrearranged.roles_perm
  exact (sortByCase_eq_iff_perm.2 hkept).symm

/-- A route that asks for roles. -/
def asking (roles : List Text) : Route :=
  ⟨"/".toList, true, true, roles, "a.razor".toList⟩

/-- Two roles with one capital form, a dotted and a dotless small i. -/
theorem roleVocabulary_canonical_dotless :
    upper "ı".toList = upper "i".toList ∧
      roleVocabulary [asking ["i".toList], asking ["b".toList, "ı".toList]] =
        roleVocabulary [asking ["ı".toList, "b".toList], asking ["i".toList]] := by
  have hspelling : OneSpelling ([asking ["ı".toList, "b".toList], asking ["i".toList]].flatMap (·.roles)) := by
    decide +kernel
  refine ⟨by decide +kernel, roleVocabulary_canonical.2.2 _ hspelling _ ?_⟩
  exact ⟨_, .swap _ _ _, .cons ⟨_, .refl _, rfl⟩ (.cons ⟨_, .swap _ _ _, rfl⟩ .nil)⟩

end SiteAudit.Route
