/-
  Lines of a text that is put together.

  * `lines_append`: the lines of a text that goes on behind a line feed are those of
    the two parts; so what is cut into lines comes back if each line was ended by a
    line feed (`lines_ended`).
  * `IsLine s front line`: the line stands in the text behind a front, which is empty
    or ends with a line feed, and before a line feed or the end.
  * `getElem?_splitOn_iff`: the number of a line is the number of line feeds before it.
  * `Relined`: one text is another with a line feed for every line end;
    `relined_iff`: there is one such text, which has no carriage return.
-/
import Mathlib.Data.List.Basic
import SiteAudit.Proofs.Text.Names
import SiteAudit.Text.Lines

namespace SiteAudit.Text

variable {s t front line name : Text} {names : List Text} {sep : Char} {i : Nat}

theorem lines_eq (s : Text) : lines s =
    if (splitOn '\n' s).getLast? = some [] then (splitOn '\n' s).dropLast else splitOn '\n' s := rfl

@[simp] theorem lines_nil : lines [] = [] := rfl

/-- **Lines are cut on both sides of a line feed on their own.** -/
theorem lines_append (s t : Text) : lines (s ++ '\n' :: t) = splitOn '\n' s ++ lines t := by
  have hne := splitOn_ne_nil '\n' t
  rw [lines_eq, lines_eq, splitOn_append, List.getLast?_append_of_ne_nil _ hne]
  split
  · exact List.dropLast_append_of_ne_nil hne
  · rfl

theorem lines_append_feed (s : Text) : lines (s ++ ['\n']) = splitOn '\n' s := by
  rw [lines_append, lines_nil, List.append_nil]

/-- **Lines that were each ended by a line feed come back.** -/
theorem lines_ended {pieces : List Text} (h : ∀ line ∈ pieces, '\n' ∉ line) :
    lines (pieces.flatMap (· ++ ['\n'])) = pieces := by
  induction pieces with
  | nil => rfl
  | cons line pieces ih =>
    rw [List.flatMap_cons, List.append_assoc, List.singleton_append, lines_append,
      splitOn_of_notMem (h line (by simp)), ih fun other hother => h other (by simp [hother])]
    rfl

/-! ## The place of a line -/

/-- The line stands in the text behind the front. -/
def IsLine (s front line : Text) : Prop :=
  ∃ rest, s = front ++ line ++ rest ∧ (front = [] ∨ front.getLast? = some '\n') ∧ '\n' ∉ line ∧
    (rest = [] ∨ rest.head? = some '\n')

theorem splitOn_eq_cons_iff : splitOn sep s = name :: names ↔
    sep ∉ name ∧ (s = name ∧ names = [] ∨ ∃ t, s = name ++ sep :: t ∧ names = splitOn sep t) := by
  constructor
  · intro h
    by_cases hsep : sep ∈ s
    · obtain ⟨first, t, rfl, hfirst⟩ := List.eq_append_cons_of_mem hsep
      rw [splitOn_append, splitOn_of_notMem hfirst] at h
      obtain ⟨rfl, rfl⟩ := List.cons.inj h
      exact ⟨hfirst, Or.inr ⟨t, rfl, rfl⟩⟩
    · rw [splitOn_of_notMem hsep] at h
      obtain ⟨rfl, rfl⟩ := List.cons.inj h
      exact ⟨hsep, Or.inl ⟨rfl, rfl⟩⟩
  · rintro ⟨hname, ⟨rfl, rfl⟩ | ⟨t, rfl, rfl⟩⟩
    · exact splitOn_of_notMem hname
    · rw [splitOn_append, splitOn_of_notMem hname]
      rfl

/-- **Before a line stand as many line feeds as lines.** -/
theorem getElem?_splitOn_iff : (splitOn '\n' s)[i]? = some line ↔
    ∃ front, IsLine s front line ∧ front.count '\n' = i := by
  constructor
  · intro h
    induction i generalizing s with
    | zero =>
      obtain ⟨names, hnames⟩ : ∃ names, splitOn '\n' s = line :: names := by
        obtain ⟨name, names, hnames⟩ := List.exists_cons_of_ne_nil (splitOn_ne_nil '\n' s)
        obtain rfl : name = line := by simpa [hnames] using h
        exact ⟨names, hnames⟩
      obtain ⟨hline, ⟨rfl, -⟩ | ⟨t, rfl, -⟩⟩ := splitOn_eq_cons_iff.1 hnames
      · exact ⟨[], ⟨[], by simp, Or.inl rfl, hline, Or.inl rfl⟩, rfl⟩
      · exact ⟨[], ⟨'\n' :: t, by simp, Or.inl rfl, hline, Or.inr rfl⟩, rfl⟩
    | succ i ih =>
      obtain ⟨name, names, hnames⟩ := List.exists_cons_of_ne_nil (splitOn_ne_nil '\n' s)
      rw [hnames, List.getElem?_cons_succ] at h
      obtain ⟨hname, ⟨-, rfl⟩ | ⟨t, rfl, rfl⟩⟩ := splitOn_eq_cons_iff.1 hnames
      · simp at h
      · obtain ⟨front, ⟨rest, rfl, hfront, hline, hrest⟩, rfl⟩ := ih h
        refine ⟨name ++ '\n' :: front, ⟨rest, by simp, Or.inr ?_, hline, hrest⟩, ?_⟩
        · rcases hfront with rfl | hfront
          · simp
          · simp [List.getLast?_cons, hfront]
        · simp [List.count_append, List.count_eq_zero_of_not_mem hname]
  · rintro ⟨front, ⟨rest, rfl, hfront, hline, hrest⟩, rfl⟩
    have hfirst : (splitOn '\n' (line ++ rest))[0]? = some line := by
      rcases hrest with rfl | hrest
      · rw [List.append_nil, splitOn_of_notMem hline]
        rfl
      · obtain ⟨t, rfl⟩ := List.head?_eq_some_iff.1 hrest
        rw [splitOn_append, splitOn_of_notMem hline]
        rfl
    rcases hfront with rfl | hfront
    · exact hfirst
    · obtain ⟨before, rfl⟩ := List.getLast?_eq_some_iff.1 hfront
      have hcount : (before ++ ['\n']).count '\n' = (splitOn '\n' before).length := by
        rw [List.count_append, length_splitOn]
        rfl
      rw [List.append_assoc, List.append_assoc, List.singleton_append, splitOn_append, hcount,
        List.getElem?_append_right (Nat.le_refl _), Nat.sub_self]
      exact hfirst

theorem splitOn_eq_lines_or (s : Text) : splitOn '\n' s = lines s ∨ splitOn '\n' s = lines s ++ [[]] := by
  rw [lines_eq]
  split
  · next h =>
    obtain ⟨front, hfront⟩ := List.getLast?_eq_some_iff.1 h
    exact Or.inr (by simp [hfront])
  · exact Or.inl rfl

/-! ## Line ends -/

/-- The second text is the first one with a line feed for every line end: for a
    carriage return with the line feed behind it, and for one that has none. -/
inductive Relined : Text → Text → Prop
  | nil : Relined [] []
  | pair {s t : Text} : Relined s t → Relined ('\r' :: '\n' :: s) ('\n' :: t)
  | lone {s t : Text} : s.head? ≠ some '\n' → Relined s t → Relined ('\r' :: s) ('\n' :: t)
  | other {c : Char} {s t : Text} : c ≠ '\r' → Relined s t → Relined (c :: s) (c :: t)

theorem relined_withLineFeeds (s : Text) : Relined s (withLineFeeds s) := by
  fun_induction withLineFeeds s with
  | case1 => exact .nil
  | case2 cs ih => exact .pair ih
  | case3 c cs hpair ih =>
    by_cases hc : c = '\r'
    · subst hc
      refine .lone ?_ ih
      intro hhead
      obtain ⟨more, rfl⟩ := List.head?_eq_some_iff.1 hhead
      exact hpair more rfl rfl
    · rw [if_neg hc]
      exact .other hc ih

/-- What stands in front decides which line end it is. -/
theorem Relined.eq {t' : Text} (h : Relined s t) (h' : Relined s t') : t = t' := by
  induction h generalizing t' with
  | nil =>
    cases h'
    rfl
  | pair _ ih =>
    cases h' with
    | pair h => rw [ih h]
    | lone hhead => simp at hhead
    | other hc => simp at hc
  | lone hhead _ ih =>
    cases h' with
    | pair => simp at hhead
    | lone _ h => rw [ih h]
    | other hc => simp at hc
  | other hc _ ih =>
    cases h' with
    | pair => simp at hc
    | lone => simp at hc
    | other _ h => rw [ih h]

/-- **There is one text with a line feed for every line end.** -/
theorem relined_iff : Relined s t ↔ t = withLineFeeds s := by
  constructor
  · intro h
    exact h.eq (relined_withLineFeeds s)
  · rintro rfl
    exact relined_withLineFeeds s

theorem Relined.return_notMem (h : Relined s t) : '\r' ∉ t := by
  induction h with
  | nil => simp
  | pair _ ih => simpa using ih
  | lone _ _ ih => simpa using ih
  | other hc _ ih => simpa [Ne.symm hc] using ih

theorem relined_self : ∀ {s : Text}, '\r' ∉ s → Relined s s
  | [], _ => .nil
  | c :: s, h => by
    simp only [List.mem_cons, not_or] at h
    exact .other (Ne.symm h.1) (relined_self h.2)

end SiteAudit.Text
