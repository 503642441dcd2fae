/-
  Texts that are names with separators between them.

  Cutting such a text gives the names back (`splitOn_joinWith`), also when more
  follows them (`splitOn_joinWith_append`).  A name with separators in it becomes
  more than one (`length_flatMap_splitOn`).

  `CutAt p s pieces` says what the pieces of a text are where any of several
  characters separates them; `cutAt_iff`: these are what cutting gives.
-/
import SiteAudit.Text.Basic

namespace SiteAudit.Text

variable {c sep : Char} {s t : Text} {names more : List Text}

/-! ## Separators of several kinds -/

section
variable {p : Char → Bool} {pieces : List Text}

theorem splitWhere_append (hc : p c = true) (s t : Text) :
    splitWhere p (s ++ c :: t) = splitWhere p s ++ splitWhere p t := by
  induction s with
  | nil => simp [splitWhere, hc]
  | cons d s ih =>
    by_cases hd : p d = true
    · simp [splitWhere, hd, ih]
    · obtain ⟨piece, pieces, hpieces⟩ := List.exists_cons_of_ne_nil (splitWhere_ne_nil p s)
      rw [hpieces] at ih
      simp [splitWhere, hd, ih, hpieces]

theorem splitWhere_of_forall (h : ∀ c ∈ s, p c = false) : splitWhere p s = [s] := by
  induction s with
  | nil => rfl
  | cons c s ih =>
    have hrest := ih fun d hd => h d (by simp [hd])
    simp [splitWhere, h c (by simp), hrest]

/-- The pieces are what stands between the characters of a kind, in order. -/
inductive CutAt (p : Char → Bool) : Text → List Text → Prop
  | last {piece : Text} : (∀ c ∈ piece, p c = false) → CutAt p piece [piece]
  | cut {piece more : Text} {c : Char} {pieces : List Text} : (∀ d ∈ piece, p d = false) → p c = true →
      CutAt p more pieces → CutAt p (piece ++ c :: more) (piece :: pieces)

theorem cutAt_splitWhere (p : Char → Bool) (s : Text) : CutAt p s (splitWhere p s) := by
  induction s with
  | nil => exact .last (by simp)
  | cons c s ih =>
    by_cases hc : p c = true
    · rw [splitWhere, if_pos hc]
      exact @CutAt.cut p [] s c _ (by simp) hc ih
    · rw [splitWhere, if_neg hc]
      simp only [Bool.not_eq_true] at hc
      -- The character goes to the first piece, which ends the text or does not.
      generalize splitWhere p s = pieces at ih
      cases ih with
      | last hpiece => exact .last (by simpa [hc] using hpiece)
      | cut hpiece hsep hmore => exact @CutAt.cut p (c :: _) _ _ _ (by simpa [hc] using hpiece) hsep hmore

theorem CutAt.subset (h : CutAt p s pieces) {piece : Text} (hpiece : piece ∈ pieces) : piece ⊆ s := by
  induction h with
  | last _ =>
    obtain rfl := List.mem_singleton.1 hpiece
    exact fun _ hc => hc
  | cut _ _ _ ih =>
    intro c hc
    rcases List.mem_cons.1 hpiece with rfl | hpiece
    · exact List.mem_append_left _ hc
    · exact List.mem_append_right _ (List.mem_cons_of_mem _ (ih hpiece hc))

/-- **Cutting gives the pieces, and nothing else does.** -/
theorem cutAt_iff : CutAt p s pieces ↔ pieces = splitWhere p s := by
  constructor
  · intro h
    induction h with
    | last hpiece => rw [splitWhere_of_forall hpiece]
    | cut hpiece hc _ ih => rw [splitWhere_append hc, splitWhere_of_forall hpiece, ih, List.singleton_append]
  · rintro rfl
    exact cutAt_splitWhere p s

end

/-! ## One separator -/

@[simp] theorem splitOn_cons_self (sep : Char) (t : Text) : splitOn sep (sep :: t) = [] :: splitOn sep t := by
  simp [splitOn, splitWhere]

theorem splitOn_append (s : Text) : splitOn sep (s ++ sep :: t) = splitOn sep s ++ splitOn sep t :=
  splitWhere_append (by simp) s t

theorem splitOn_of_notMem (h : sep ∉ s) : splitOn sep s = [s] := by
  refine splitWhere_of_forall fun c hc => beq_false_of_ne ?_
  rintro rfl
  exact h hc

/-- A first character that is no separator belongs to the first name. -/
theorem exists_splitOn_cons (hc : c ≠ sep) (s : Text) :
    ∃ name names, splitOn sep (c :: s) = (c :: name) :: names := by
  obtain ⟨name, names, hnames⟩ := List.exists_cons_of_ne_nil (splitWhere_ne_nil (· == sep) s)
  exact ⟨name, names, by simp [splitOn, splitWhere, hc, hnames]⟩

theorem splitOn_append_replicate (h : sep ∉ s) (more : Nat) :
    splitOn sep (s ++ List.replicate more sep) = s :: List.replicate more [] := by
  have hseps : ∀ more : Nat, splitOn sep (List.replicate more sep) = List.replicate (more + 1) [] := by
    intro more
    induction more with
    | zero => rfl
    | succ more ih => rw [List.replicate_succ, splitOn_cons_self, ih]; rfl
  cases more with
  | zero => simpa using splitOn_of_notMem h
  | succ more => rw [List.replicate_succ, splitOn_append, splitOn_of_notMem h, hseps]; rfl

theorem splitOn_ne_nil (sep : Char) (s : Text) : splitOn sep s ≠ [] :=
  splitWhere_ne_nil _ s

theorem notMem_of_mem_splitOn {name : Text} (h : name ∈ splitOn sep s) : sep ∉ name := by
  intro hsep
  simpa using not_of_mem_splitWhere h sep hsep

theorem joinWith_append (hnames : names ≠ []) (hmore : more ≠ []) :
    joinWith [sep] (names ++ more) = joinWith [sep] names ++ sep :: joinWith [sep] more := by
  induction names with
  | nil => exact absurd rfl hnames
  | cons name names ih =>
    cases names with
    | nil =>
      obtain ⟨first, rest, rfl⟩ := List.exists_cons_of_ne_nil hmore
      simp [joinWith]
    | cons next names =>
      have hrest := ih (by simp)
      simp only [List.cons_append, joinWith] at hrest ⊢
      simp [hrest]

theorem mem_joinWith_iff {sep : Text} : ∀ {names : List Text}, c ∉ sep →
    (c ∈ joinWith sep names ↔ ∃ name ∈ names, c ∈ name)
  | [], _ => by simp [joinWith]
  | [name], _ => by simp [joinWith]
  | name :: next :: names, h => by
    rw [joinWith, List.mem_append, List.mem_append, mem_joinWith_iff h]
    simp [h]

theorem splitOn_joinWith_eq_flatMap (hne : names ≠ []) :
    splitOn sep (joinWith [sep] names) = names.flatMap (splitOn sep) := by
  induction names with
  | nil => exact absurd rfl hne
  | cons name names ih =>
    cases names with
    | nil => simp [joinWith]
    | cons next names =>
      have hcut : joinWith [sep] (name :: next :: names) = name ++ sep :: joinWith [sep] (next :: names) := by
        simp [joinWith]
      rw [hcut, splitOn_append, ih (by simp)]
      rfl

theorem flatMap_splitOn_of_notMem (h : ∀ name ∈ names, sep ∉ name) : names.flatMap (splitOn sep) = names := by
  induction names with
  | nil => rfl
  | cons name names ih =>
    rw [List.flatMap_cons, splitOn_of_notMem (h name (by simp)), ih fun other hother => h other (by simp [hother])]
    rfl

theorem length_splitOn (sep : Char) (s : Text) : (splitOn sep s).length = s.count sep + 1 := by
  induction s with
  | nil => rfl
  | cons c s ih =>
    by_cases hc : c = sep
    · subst hc
      simp [ih]
    · obtain ⟨name, names, hnames⟩ := List.exists_cons_of_ne_nil (splitWhere_ne_nil (· == sep) s)
      rw [splitOn, hnames] at ih
      simpa [splitOn, splitWhere, hc, hnames] using ih

theorem length_flatMap_splitOn (sep : Char) (names : List Text) :
    (names.flatMap (splitOn sep)).length = names.length + names.flatten.count sep := by
  induction names with
  | nil => rfl
  | cons name names ih =>
    rw [List.flatMap_cons, List.length_append, length_splitOn, ih, List.length_cons, List.flatten_cons,
      List.count_append]
    omega

theorem splitOn_joinWith (hne : names ≠ []) (hnames : ∀ name ∈ names, sep ∉ name) :
    splitOn sep (joinWith [sep] names) = names := by
  rw [splitOn_joinWith_eq_flatMap hne, flatMap_splitOn_of_notMem hnames]

theorem splitOn_joinWith_append (hne : names ≠ []) (hnames : ∀ name ∈ names, sep ∉ name) :
    splitOn sep (joinWith [sep] names ++ sep :: t) = names ++ splitOn sep t := by
  rw [splitOn_append, splitOn_joinWith hne hnames]

end SiteAudit.Text
