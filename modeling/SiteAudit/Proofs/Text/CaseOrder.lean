/-
  The order of names in reports.

  * Names rank by their capital forms and then by themselves (`caseOrder_eq_lt_iff`),
    so names of equal rank are equal.
  * `sortByCase_ascending`: distinct names are sorted into strict order.
  * `sortByCase_eq_self`: names in strict order stay as they are.
  * `eq_sortByCase_iff`: there is one way to sort names, however they are given.
-/
import SiteAudit.Proofs.Order
import SiteAudit.Text.Order

namespace SiteAudit.Text

variable {a b : Text} {names : List Text}

/-! ## Ranks -/

instance : Std.TransCmp caseOrder :=
  inferInstanceAs (Std.TransCmp (compareLex (compareOn upper) compare))

instance : Std.LawfulEqCmp caseOrder where
  eq_of_compare h := Std.LawfulEqCmp.eq_of_compare (Ordering.then_eq_eq.1 h).2

theorem caseOrder_eq_lt_iff : caseOrder a b = .lt ↔
    compare (upper a) (upper b) = .lt ∨ upper a = upper b ∧ compare a b = .lt := by
  rw [caseOrder, Ordering.then_eq_lt, Std.compare_eq_iff_eq]

/-- A name ranks no higher than another: its capital form is lower, or the capital
    forms are equal and it is no higher itself. -/
def RanksUpTo (a b : Text) : Prop :=
  compare (upper a) (upper b) = .lt ∨ upper a = upper b ∧ compare a b ≠ .gt

theorem isLE_caseOrder_iff : (caseOrder a b).isLE = true ↔ RanksUpTo a b := by
  rw [RanksUpTo, caseOrder, Ordering.isLE_then_iff_or, Std.compare_eq_iff_eq, Ordering.isLE_iff_ne_gt]

/-! ## Sorting -/

theorem sortByCase_perm (names : List Text) : (sortByCase names).Perm names :=
  List.mergeSort_perm _ _

/-- **Distinct names are sorted into strict order.** -/
theorem sortByCase_ascending (h : names.Nodup) : (sortByCase names).Pairwise fun a b => caseOrder a b = .lt := by
  have hascending : (sortByCase names).Pairwise fun a b => (caseOrder a b).isLE = true :=
    (arranged_mergeSort names).ascending
  have hnodup : (sortByCase names).Nodup := (sortByCase_perm names).nodup_iff.2 h
  refine (hascending.and hnodup).imp fun {a b} hab => ?_
  obtain ⟨hle, hne⟩ := hab
  cases hrank : caseOrder a b with
  | lt => rfl
  | eq => exact absurd (Std.LawfulEqCmp.eq_of_compare hrank) hne
  | gt => simp [hrank] at hle

theorem sortByCase_eq_self (h : names.Pairwise fun a b => caseOrder a b = .lt) : sortByCase names = names := by
  refine List.mergeSort_of_pairwise (h.imp fun hlt => ?_)
  rw [hlt]
  rfl

/-- **There is one way to sort names.** -/
theorem eq_sortByCase_iff {result : List Text} :
    result = sortByCase names ↔ result.Perm names ∧ result.Pairwise RanksUpTo := by
  simp only [sortByCase, eq_mergeSort_iff, isLE_caseOrder_iff]

theorem sortByCase_eq_iff_perm {others : List Text} : sortByCase names = sortByCase others ↔ names.Perm others := by
  constructor
  · intro heq
    exact (sortByCase_perm names).symm.trans (heq ▸ sortByCase_perm others)
  · intro hperm
    obtain ⟨hsorted, hascending⟩ := eq_sortByCase_iff.1 (Eq.refl (sortByCase names))
    exact eq_sortByCase_iff.2 ⟨hsorted.trans hperm, hascending⟩

end SiteAudit.Text
