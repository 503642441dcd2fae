/-
  The names of paths.

  * `cutName_cases`: a name is cut before a dot, or not at all; so it is not its stem
    with something else than a suffix (`cutName_append_ne`).
  * `parts_eq`: a path with a name is the path of a directory, and the name.
  * `withName?_eq_some_iff`: another name puts a path beside the one that is given.
  * `IsNameless`: the texts of paths without a name.
-/
import SiteAudit.Files.Path

namespace SiteAudit.Files.Path

variable {path other : Path} {name tail : Text} {c : Char}

/-! ## Stems and suffixes -/

theorem cutName_cases (name : Text) : cutName name = (name, []) ∨
    ∃ stem ending, cutName name = (stem, '.' :: ending) ∧ name = stem ++ '.' :: ending := by
  rw [cutName]
  split
  · next dot first before hdrop =>
    split
    · exact Or.inl rfl
    · refine Or.inr ⟨_, _, rfl, ?_⟩
      have hsplit := List.takeWhile_append_dropWhile (p := (· != '.')) (l := name.reverse)
      have hrest : name.reverse.dropWhile (· != '.') = dot :: first :: before := by
        have hdropped : (name.reverse.takeWhile (· != '.') ++ name.reverse.dropWhile (· != '.')).drop
            (name.reverse.takeWhile (· != '.')).length = name.reverse.dropWhile (· != '.') := List.drop_left
        rw [hsplit, hdrop] at hdropped
        exact hdropped.symm
      have hdot : dot = '.' := by
        have hhead := List.head?_dropWhile_not (· != '.') name.reverse
        rw [hrest] at hhead
        simpa using hhead
      rw [hrest, hdot] at hsplit
      have hname := congrArg List.reverse hsplit
      rw [List.reverse_reverse] at hname
      exact hname.symm.trans (by simp)
  · exact Or.inl rfl

theorem cutName_append_ne (hc : c ≠ '.') (name : Text) : (cutName name).1 ++ c :: tail ≠ name := by
  intro heq
  rcases cutName_cases name with hcut | ⟨stem, ending, hcut, hname⟩
  · rw [hcut] at heq
    simp at heq
  · rw [hcut, hname] at heq
    have htails := List.append_cancel_left heq
    exact hc (List.cons.inj htails).1

/-! ## Names -/

theorem withName?_eq_none_iff : path.withName? name = none ↔ path.parts = [] := by
  rw [withName?]
  split <;> simp_all

theorem withName?_eq_some_iff : path.withName? name = some other ↔
    path.parts ≠ [] ∧ other = ⟨path.anchor, path.parts.dropLast ++ [name]⟩ := by
  rw [withName?]
  split <;> simp_all [eq_comm]

theorem parent_of_withName? (h : path.withName? name = some other) : other.parent = path.parent := by
  obtain ⟨-, rfl⟩ := withName?_eq_some_iff.1 h
  rw [parent, parent, List.dropLast_concat]

theorem name_of_withName? (h : path.withName? name = some other) : other.name = name := by
  obtain ⟨-, rfl⟩ := withName?_eq_some_iff.1 h
  rw [Path.name, List.getLast?_concat, Option.getD_some]

theorem parts_eq (hname : isPart path.name = true) :
    path.parts = path.parent.parts ++ [path.name] := by
  have hne : path.parts ≠ [] := by
    intro hnil
    simp [Path.name, hnil, isPart] at hname
  rw [parent, Path.name, List.getLast?_eq_some_getLast hne, Option.getD_some, List.dropLast_concat_getLast hne]

/-- The text has nothing between its slashes but single dots. -/
def IsNameless (s : Text) : Prop :=
  ∀ piece ∈ Text.splitOn '/' s, piece = [] ∨ piece = ['.']

theorem parts_ofText_eq_nil_iff {s : Text} : (ofText s).parts = [] ↔ IsNameless s := by
  rw [ofText, partsOf, List.filter_eq_nil_iff, IsNameless]
  refine forall₂_congr fun piece _ => ?_
  by_cases hempty : piece = [] <;> simp [isPart, hempty]

theorem isPart_name_ofText {s : Text} (h : (ofText s).parts ≠ []) : isPart (ofText s).name = true := by
  have hmem : (ofText s).name ∈ (ofText s).parts := by
    rw [Path.name, List.getLast?_eq_some_getLast h, Option.getD_some]
    exact List.getLast_mem h
  exact (List.mem_filter.1 hmem).2

end SiteAudit.Files.Path
