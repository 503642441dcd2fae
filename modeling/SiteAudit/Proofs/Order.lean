/-
  Lists brought into an order.

  * `Arranged`: a list holds what another one holds, in ascending order, and entries
    of equal rank as they were.  Sorting does that (`arranged_mergeSort`), and if no
    two entries have one rank, nothing else does (`eq_mergeSort_iff`).
  * `filter_mergeSort`: entries that are in order before are found in the same order.
  * `exists_block`: in a list that ascends by a key the entries of one key stand
    together.
-/
namespace SiteAudit

variable {α κ : Type} {order : α → α → Ordering} {entries : List α}

/-- The result is what is given, brought into an order that leaves entries of equal
    rank as they are. -/
structure Arranged (order : α → α → Ordering) (given result : List α) : Prop where
  perm : result.Perm given
  ascending : result.Pairwise fun a b => (order a b).isLE = true
  stable : ∀ a, result.filter (order a · == .eq) = given.filter (order a · == .eq)

section
variable [Std.TransCmp order]

theorem isLE_total (a b : α) : ((order a b).isLE || (order b a).isLE) = true := by
  have hswap : order b a = (order a b).swap := Std.OrientedCmp.eq_swap
  rw [hswap]
  cases order a b <;> rfl

/-- **Entries that are in order before sorting stay as they are.** -/
theorem filter_mergeSort {p : α → Bool}
    (h : (entries.filter p).Pairwise fun a b => (order a b).isLE = true) :
    (entries.mergeSort fun a b => (order a b).isLE).filter p = entries.filter p := by
  have hkept : (entries.filter p).Sublist (entries.mergeSort fun a b => (order a b).isLE) :=
    List.sublist_mergeSort (fun _ _ _ => Std.TransCmp.isLE_trans) isLE_total h List.filter_sublist
  have hfilter : (entries.filter p).Sublist ((entries.mergeSort fun a b => (order a b).isLE).filter p) := by
    simpa using hkept.filter p
  exact (hfilter.eq_of_length ((List.mergeSort_perm entries _).filter p).length_eq.symm).symm

/-- **Sorting arranges.** -/
theorem arranged_mergeSort (entries : List α) :
    Arranged order entries (entries.mergeSort fun a b => (order a b).isLE) where
  perm := List.mergeSort_perm _ _
  ascending := List.pairwise_mergeSort (fun _ _ _ => Std.TransCmp.isLE_trans) isLE_total entries
  stable a := by
    refine filter_mergeSort (List.pairwise_of_forall_mem_list fun b hb c hc => ?_)
    have hab : order a b = .eq := by simpa using (List.mem_filter.1 hb).2
    have hac : order a c = .eq := by simpa using (List.mem_filter.1 hc).2
    simp [Std.TransCmp.eq_trans (Std.OrientedCmp.eq_symm hab) hac]

/-- **There is one arrangement**, where only an entry itself has its rank. -/
theorem eq_mergeSort_iff [Std.LawfulEqCmp order] {given result : List α} :
    result = given.mergeSort (fun a b => (order a b).isLE) ↔
      result.Perm given ∧ result.Pairwise fun a b => (order a b).isLE = true := by
  have hsorted : Arranged order given (given.mergeSort fun a b => (order a b).isLE) := arranged_mergeSort given
  constructor
  · rintro rfl
    exact ⟨hsorted.perm, hsorted.ascending⟩
  · rintro ⟨hperm, hascending⟩
    refine List.Perm.eq_of_pairwise (fun a b _ _ hab hba => ?_) hascending hsorted.ascending
      (hperm.trans hsorted.perm.symm)
    exact Std.LawfulEqCmp.eq_of_compare (Std.OrientedCmp.isLE_antisymm hab hba)

end

/-! ## Blocks -/

variable [Ord κ] [Std.TransOrd κ] {key : α → κ}

/-- In an ascending list the entries below a place come first, and those above it
    last. -/
theorem eq_filter_append (place : κ) : ∀ {entries : List α},
    (entries.Pairwise fun a b => (compare (key a) (key b)).isLE = true) →
    entries = (entries.filter fun a => compare (key a) place == .lt) ++
      (entries.filter fun a => compare (key a) place == .eq) ++
      entries.filter fun a => compare (key a) place == .gt
  | [], _ => rfl
  | a :: entries, h => by
    obtain ⟨ha, hentries⟩ := List.pairwise_cons.1 h
    have ih := eq_filter_append place hentries
    -- What stands after an entry is no lower than the entry.
    have hnone {rank : Ordering} (hrank : ∀ b ∈ entries, compare (key b) place ≠ rank) :
        (entries.filter fun b => compare (key b) place == rank) = [] :=
      List.filter_eq_nil_iff.2 fun b hb => by simpa using hrank b hb
    cases hplace : compare (key a) place with
    | lt => simpa [hplace] using ih
    | eq =>
      have hlt : (entries.filter fun b => compare (key b) place == .lt) = [] := hnone fun b hb hlow => by
        have := Std.TransCmp.lt_of_isLE_of_lt (ha b hb) hlow
        simp [hplace] at this
      simpa [hplace, hlt] using ih
    | gt =>
      have habove : ∀ b ∈ entries, compare (key b) place = .gt := fun b hb =>
        Std.OrientedCmp.gt_of_lt (Std.TransCmp.lt_of_lt_of_isLE (Std.OrientedCmp.lt_of_gt hplace) (ha b hb))
      have hlt : (entries.filter fun b => compare (key b) place == .lt) = [] :=
        hnone fun b hb => by simp [habove b hb]
      have heq : (entries.filter fun b => compare (key b) place == .eq) = [] :=
        hnone fun b hb => by simp [habove b hb]
      simpa [hplace, hlt, heq] using ih

/-- **In an ascending list the entries of one key stand together.** -/
theorem exists_block (place : κ)
    (h : entries.Pairwise fun a b => (compare (key a) (key b)).isLE = true) :
    ∃ before after, entries = before ++ (entries.filter fun a => compare (key a) place == .eq) ++ after ∧
      ∀ a ∈ before ++ after, compare (key a) place ≠ .eq := by
  refine ⟨_, _, eq_filter_append place h, fun a ha => ?_⟩
  rcases List.mem_append.1 ha with ha | ha
  · have hlow : compare (key a) place = .lt := by simpa using (List.mem_filter.1 ha).2
    simp [hlow]
  · have hhigh : compare (key a) place = .gt := by simpa using (List.mem_filter.1 ha).2
    simp [hhigh]

end SiteAudit
