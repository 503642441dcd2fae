/-
  First spellings.

  * `mem_firstSpellings_iff`: kept are the names before which no spelling of the
    same name stands.
  * `DistinctNames`: no two texts of a list are spellings of one name; first
    spellings are (`firstSpellings_distinct`), in any order.
  * `OneSpelling`: no name is spelled in two ways, so that the order of the names does
    not matter (`OneSpelling.firstSpellings_perm`).
  * `SameLetters`: two texts are letter by letter the same, in any case.  Two
    spellings of one name need not be: a sharp s and a pair of s are not.
  * `sameLetters_of_sameName`: they are if every letter folds to a single one.
-/
import Mathlib.Data.List.Forall2
import Mathlib.Data.List.Nodup
import SiteAudit.Proofs.Text.CaseTables
import SiteAudit.Text.Spelling

namespace SiteAudit.Text

theorem sameName_iff {a b : Text} : sameName a b = true ↔ fold a = fold b := by
  simp [sameName]

/-- **Kept is what no spelling of the same name precedes.** -/
theorem mem_firstSpellings_iff {names : List Text} {a : Text} :
    a ∈ firstSpellings names ↔
      ∃ before after, names = before ++ a :: after ∧ ∀ b ∈ before, sameName b a = false := by
  induction names with
  | nil => simp [firstSpellings]
  | cons n names ih =>
    simp only [firstSpellings, List.mem_cons, List.mem_filter, ih, Bool.not_eq_eq_eq_not, Bool.not_true]
    constructor
    · rintro (rfl | ⟨⟨before, after, rfl, h⟩, hn⟩)
      · exact ⟨[], names, rfl, by simp⟩
      · exact ⟨n :: before, after, rfl, by simpa [hn] using h⟩
    · rintro ⟨before, after, heq, h⟩
      cases before with
      | nil => exact Or.inl (List.cons.inj heq).1.symm
      | cons b before =>
        obtain ⟨rfl, rfl⟩ := List.cons.inj heq
        exact Or.inr ⟨⟨before, after, rfl, fun b hb => h b (by simp [hb])⟩, h n (by simp)⟩

theorem exists_mem_firstSpellings {names : List Text} {a : Text} (h : a ∈ names) :
    ∃ b ∈ firstSpellings names, sameName b a = true := by
  induction names with
  | nil => simp at h
  | cons n names ih =>
    by_cases hn : sameName n a = true
    · exact ⟨n, by simp [firstSpellings], hn⟩
    · rcases List.mem_cons.1 h with rfl | h
      · simp [sameName] at hn
      · obtain ⟨b, hb, hba⟩ := ih h
        refine ⟨b, List.mem_cons_of_mem _ (List.mem_filter.2 ⟨hb, ?_⟩), hba⟩
        rw [sameName_iff] at hn hba
        simp [sameName, hba, hn]

theorem firstSpellings_sublist : ∀ names : List Text, (firstSpellings names).Sublist names
  | [] => .slnil
  | n :: names => (List.filter_sublist.trans (firstSpellings_sublist names)).cons_cons n

/-- Of further names those are kept that are not names already, in order of first
    occurrence behind the ones kept before. -/
theorem firstSpellings_append (names more : List Text) : firstSpellings (names ++ more) =
    firstSpellings names ++ (firstSpellings more).filter fun a => !names.any fun b => sameName b a := by
  induction names with
  | nil => simp [firstSpellings]
  | cons n names ih =>
    rw [List.cons_append, firstSpellings, ih, List.filter_append, List.filter_filter, firstSpellings, List.cons_append]
    simp [Bool.not_or]

/-! ## Distinct names -/

/-- No two of the texts are spellings of one name. -/
def DistinctNames (names : List Text) : Prop :=
  names.Pairwise fun a b => sameName a b = false

theorem distinctNames_iff {names : List Text} : DistinctNames names ↔ (names.map fold).Nodup := by
  simp [DistinctNames, List.Nodup, List.pairwise_map, sameName]

theorem DistinctNames.nodup {names : List Text} (h : DistinctNames names) : names.Nodup :=
  List.Nodup.of_map fold (distinctNames_iff.1 h)

/-- **First spellings are distinct names.** -/
theorem firstSpellings_distinct : ∀ names : List Text, DistinctNames (firstSpellings names)
  | [] => .nil
  | n :: names => by
    refine List.pairwise_cons.2 ⟨fun b hb => ?_, (firstSpellings_distinct names).filter _⟩
    simpa using (List.mem_filter.1 hb).2

theorem firstSpellings_eq_self : ∀ {names : List Text}, DistinctNames names → firstSpellings names = names
  | [], _ => rfl
  | name :: names, h => by
    obtain ⟨hname, hnames⟩ := List.pairwise_cons.1 h
    rw [firstSpellings, firstSpellings_eq_self hnames, List.filter_eq_self.2]
    intro other hother
    simp [hname other hother]

theorem DistinctNames.perm {names others : List Text} (h : DistinctNames names)
    (hperm : others.Perm names) : DistinctNames others :=
  distinctNames_iff.2 ((hperm.map fold).nodup_iff.2 (distinctNames_iff.1 h))

theorem DistinctNames.inj {names : List Text} (h : DistinctNames names) {a b : Text} (ha : a ∈ names)
    (hb : b ∈ names) (hsame : fold a = fold b) : a = b :=
  List.inj_on_of_nodup_map (distinctNames_iff.1 h) ha hb hsame

/-! ## One spelling -/

/-- No name is spelled in two ways. -/
def OneSpelling (names : List Text) : Prop :=
  ∀ a ∈ names, ∀ b ∈ names, fold a = fold b → a = b

instance : DecidablePred OneSpelling := fun names =>
  inferInstanceAs (Decidable (∀ a ∈ names, ∀ b ∈ names, fold a = fold b → a = b))

theorem OneSpelling.mem_firstSpellings_iff {names : List Text} (h : OneSpelling names) {a : Text} :
    a ∈ firstSpellings names ↔ a ∈ names := by
  refine ⟨fun hkept => (firstSpellings_sublist names).subset hkept, fun hname => ?_⟩
  obtain ⟨b, hkept, hsame⟩ := exists_mem_firstSpellings hname
  obtain rfl := h b ((firstSpellings_sublist names).subset hkept) a hname (sameName_iff.1 hsame)
  exact hkept

theorem OneSpelling.perm {names others : List Text} (h : OneSpelling names) (hperm : names.Perm others) :
    OneSpelling others :=
  fun a ha b hb => h a (hperm.mem_iff.2 ha) b (hperm.mem_iff.2 hb)

/-- **Of names that are spelled in one way the same spellings are kept in any order.** -/
theorem OneSpelling.firstSpellings_perm {names others : List Text} (h : OneSpelling names)
    (hperm : names.Perm others) : (firstSpellings names).Perm (firstSpellings others) := by
  refine (List.perm_ext_iff_of_nodup (firstSpellings_distinct _).nodup (firstSpellings_distinct _).nodup).2 fun a => ?_
  rw [h.mem_firstSpellings_iff, (h.perm hperm).mem_firstSpellings_iff, hperm.mem_iff]

/-! ## Letter by letter -/

/-- The two texts are letter by letter the same, in any case. -/
def SameLetters (s t : Text) : Prop :=
  List.Forall₂ (fun a b => sameLetter a b = true) s t

theorem SameLetters.refl (word : Text) : SameLetters word word :=
  List.forall₂_same.2 fun _ _ => beq_self_eq_true _

theorem dropWord?_cons_eq_some_iff {a : Char} {w s rest : Text} : dropWord? (a :: w) s = some rest ↔
    ∃ c t, s = c :: t ∧ sameLetter a c = true ∧ dropWord? w t = some rest := by
  cases s with
  | nil => simp [dropWord?]
  | cons c s =>
    by_cases h : sameLetter a c = true
    · simp [dropWord?, h]
    · simp [dropWord?, h]

theorem dropWord?_append (w v s : Text) : dropWord? (w ++ v) s = (dropWord? w s).bind (dropWord? v) := by
  induction w generalizing s with
  | nil => rfl
  | cons a w ih =>
    cases s with
    | nil => rfl
    | cons c s =>
      by_cases h : sameLetter a c = true
      · simp [dropWord?, h, ih]
      · simp [dropWord?, h]

/-- What is read off without regard to case are the same letters as the word. -/
theorem dropWord?_iff_sameLetters {w s rest : Text} : dropWord? w s = some rest ↔
    ∃ spelled, s = spelled ++ rest ∧ SameLetters w spelled := by
  induction w generalizing s with
  | nil => simp [dropWord?, SameLetters]
  | cons a w ih =>
    rw [dropWord?_cons_eq_some_iff]
    constructor
    · rintro ⟨c, t, rfl, ha, hrest⟩
      obtain ⟨spelled, rfl, hw⟩ := ih.1 hrest
      exact ⟨c :: spelled, rfl, .cons ha hw⟩
    · rintro ⟨spelled, rfl, hspelled⟩
      obtain ⟨c, spelled, ha, hw, rfl⟩ := List.forall₂_cons_left_iff.1 hspelled
      exact ⟨c, spelled ++ rest, rfl, ha, ih.2 ⟨spelled, rfl, hw⟩⟩

/-- **Two spellings of a name whose letters fold to single letters are letter by
    letter the same.** -/
theorem sameLetters_of_sameName : ∀ {s t : Text}, (∀ c ∈ s, foldsToOne c = true) →
    (∀ c ∈ t, foldsToOne c = true) → sameName s t = true → SameLetters s t
  | [], [], _, _, _ => .nil
  | [], b :: t, _, ht, h => by
    obtain ⟨d, hd, -⟩ := foldLetter_of_foldsToOne (ht b (by simp))
    simp [sameName, fold, hd] at h
  | a :: s, [], hs, _, h => by
    obtain ⟨d, hd, -⟩ := foldLetter_of_foldsToOne (hs a (by simp))
    simp [sameName, fold, hd] at h
  | a :: s, b :: t, hs, ht, h => by
    obtain ⟨d, hd, hda⟩ := foldLetter_of_foldsToOne (hs a (by simp))
    obtain ⟨e, he, heb⟩ := foldLetter_of_foldsToOne (ht b (by simp))
    rw [sameName_iff, fold, fold, List.flatMap_cons, List.flatMap_cons, hd, he] at h
    obtain ⟨rfl, hrest⟩ := List.cons.inj h
    refine .cons (by simp [sameLetter, hda, heb]) (sameLetters_of_sameName ?_ ?_ (sameName_iff.2 hrest))
    · exact fun c hc => hs c (by simp [hc])
    · exact fun c hc => ht c (by simp [hc])

end SiteAudit.Text
