/-
  What a scan finds.

  * `exists_of_mem_findsFrom`: a find is read by the form at some place of the text.
  * `finds_leftToRight`: finds follow one another and do not overlap.
  * `holds_iff`: a form that holds in a text does so behind some front, and then the
    scan finds something (`finds_ne_nil_iff`).
-/
import SiteAudit.Text.Scan

namespace SiteAudit.Text

variable {α : Type} {s : Text}

theorem getLast?_cons_eq_or (c : Char) (s : Text) : (c :: s).getLast? = s.getLast?.or (some c) :=
  List.getLast?_append (l := [c])

theorem exists_of_mem_findsFrom {form : Form α} : ∀ {s : Text} {offset skip : Nat} {before : Option Char}
    {found : Find α}, found ∈ findsFrom form offset before skip s →
    ∃ place t rest, t <:+ s ∧ form place t = some (found.value, rest)
  | [], _, _, _, _, h => by simp [findsFrom] at h
  | c :: s, _, skip + 1, _, _, h => by
    obtain ⟨place, t, rest, ht, hform⟩ := exists_of_mem_findsFrom (s := s) h
    exact ⟨place, t, rest, ht.trans (List.suffix_cons c s), hform⟩
  | c :: s, _, 0, before, found, h => by
    have hlater {offset skip : Nat} (h : found ∈ findsFrom form offset (some c) skip s) :
        ∃ place t rest, t <:+ c :: s ∧ form place t = some (found.value, rest) := by
      obtain ⟨place, t, rest, ht, hform⟩ := exists_of_mem_findsFrom h
      exact ⟨place, t, rest, ht.trans (List.suffix_cons c s), hform⟩
    simp only [findsFrom] at h
    split at h
    · exact hlater h
    · next value rest hform =>
      rcases List.mem_cons.1 h with rfl | h
      · exact ⟨before, c :: s, rest, List.suffix_rfl, hform⟩
      · exact hlater h

/-! ## Order -/

/-- A find starts after the characters that the scan skips. -/
theorem le_start_of_mem_findsFrom {form : Form α} : ∀ {s : Text} {offset skip : Nat}
    {before : Option Char} {found : Find α},
    found ∈ findsFrom form offset before skip s → offset + skip ≤ found.start
  | [], _, _, _, _, h => by simp [findsFrom] at h
  | c :: s, offset, skip + 1, before, found, h => by
    have := le_start_of_mem_findsFrom (s := s) h
    omega
  | c :: s, offset, 0, before, found, h => by
    simp only [findsFrom] at h
    split at h
    · have := le_start_of_mem_findsFrom h
      omega
    · rcases List.mem_cons.1 h with rfl | h
      · simp
      · have := le_start_of_mem_findsFrom h
        omega

theorem findsFrom_leftToRight (form : Form α) : ∀ (s : Text) (offset skip : Nat) (before : Option Char),
    (findsFrom form offset before skip s).Pairwise fun a b => a.stop ≤ b.start
  | [], _, _, _ => .nil
  | c :: s, offset, skip + 1, before => findsFrom_leftToRight form s (offset + 1) skip (some c)
  | c :: s, offset, 0, before => by
    rw [findsFrom]
    split
    · exact findsFrom_leftToRight form s (offset + 1) 0 (some c)
    · refine List.pairwise_cons.2 ⟨fun found hfound => ?_, findsFrom_leftToRight form s _ _ _⟩
      have := le_start_of_mem_findsFrom hfound
      simp only [Find.stop]
      omega

/-- **Finds follow one another from left to right.** -/
theorem finds_leftToRight (form : Form α) (s : Text) :
    (finds form s).Pairwise fun a b => a.stop ≤ b.start :=
  findsFrom_leftToRight form s 0 0 none

/-! ## Somewhere in a text -/

theorem holdsFrom_iff {form : Form α} {before : Option Char} : holdsFrom form before s = true ↔
    ∃ front behind, s = front ++ behind ∧ behind ≠ [] ∧ (form (front.getLast?.or before) behind).isSome = true := by
  induction s generalizing before with
  | nil => simp [holdsFrom]
  | cons c s ih =>
    rw [holdsFrom, Bool.or_eq_true, ih]
    constructor
    · rintro (h | ⟨front, behind, rfl, hne, h⟩)
      · exact ⟨[], c :: s, rfl, by simp, h⟩
      · exact ⟨c :: front, behind, rfl, hne, by rwa [getLast?_cons_eq_or, Option.or_assoc]⟩
    · rintro ⟨front, behind, hsplit, hne, h⟩
      rcases List.cons_eq_append_iff.1 hsplit with ⟨rfl, rfl⟩ | ⟨front, rfl, rfl⟩
      · exact Or.inl h
      · rw [getLast?_cons_eq_or, Option.or_assoc] at h
        exact Or.inr ⟨front, behind, rfl, hne, h⟩

theorem holds_iff {form : Form α} : holds form s = true ↔
    ∃ front behind, s = front ++ behind ∧ behind ≠ [] ∧ (form front.getLast? behind).isSome = true := by
  simp [holds, holdsFrom_iff]

theorem findsFrom_ne_nil_iff {form : Form α} {offset : Nat} {before : Option Char} :
    findsFrom form offset before 0 s ≠ [] ↔ holdsFrom form before s = true := by
  induction s generalizing offset before with
  | nil => simp [findsFrom, holdsFrom]
  | cons c s ih =>
    rw [findsFrom, holdsFrom]
    cases hread : form before (c :: s) with
    | none => simpa using ih
    | some read => simp

/-- **A scan finds something** if the form holds somewhere. -/
theorem finds_ne_nil_iff {form : Form α} : finds form s ≠ [] ↔ holds form s = true :=
  findsFrom_ne_nil_iff

end SiteAudit.Text
