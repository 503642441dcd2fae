/-
  Rebased patterns.

  * `below`: the text of a pattern for what is below a directory; its names are
    those of the directory and then those of the pattern (`patternNames_below`).
  * `rebasedPattern_spec`: rebasing a pattern makes such a text, and the names of
    the pattern are kept.  Blanks at the end can spoil this (`HidesSlash`).
-/
import Mathlib.Data.List.Basic
import Mathlib.Data.List.TakeWhile
import SiteAudit.Exclude.Rebase
import SiteAudit.Proofs.Exclude.Below
import SiteAudit.Proofs.Exclude.Line

namespace SiteAudit.Exclude

open Text (isBlank joinWith splitOn startsWith)

variable {base pattern name : Text} {names directory : List Text}

/-! ## Names after those of a directory -/

/-- The names of a pattern that goes on after a slash. -/
def namesAfterSlash (pattern : Text) : List Text :=
  joinedRuns (spelledOut (splitOn '/' pattern))

theorem joinedRuns_append (h : ∀ name ∈ directory, name ≠ anyDirectories) :
    joinedRuns (directory ++ names) = directory ++ joinedRuns names := by
  induction directory with
  | nil => rfl
  | cons name directory ih =>
    have hrest := ih fun name hmem => h name (by simp [hmem])
    rw [List.cons_append, joinedRuns, if_neg fun hrun => h name (by simp) hrun.1, hrest]
    rfl

theorem spelledOut_append (h : names ≠ []) : spelledOut (directory ++ names) = directory ++ spelledOut names := by
  rw [spelledOut, spelledOut, List.getLast?_append_of_ne_nil _ h]
  split
  · rw [List.dropLast_append_of_ne_nil h, List.append_assoc]
  · rfl

theorem spelledOut_cons (h : names ≠ []) : spelledOut (name :: names) = name :: spelledOut names :=
  @spelledOut_append names [name] h

theorem namesAfterSlash_ne_nil (pattern : Text) : namesAfterSlash pattern ≠ [] := by
  have hspelled : spelledOut (splitOn '/' pattern) ≠ [] := by
    rw [spelledOut]
    split
    · simp
    · exact Text.splitOn_ne_nil '/' pattern
  intro hnil
  have hhead := head?_joinedRuns (spelledOut (splitOn '/' pattern))
  rw [namesAfterSlash] at hnil
  rw [hnil, List.head?_nil, eq_comm, List.head?_eq_none_iff] at hhead
  exact hspelled hhead

/-- The text of a pattern for what is below a directory. -/
def below (directory : List Text) (pattern : Text) : Text :=
  '/' :: (joinWith ['/'] directory ++ '/' :: pattern)

theorem splitOn_below (hdir : IsPlainDirectory directory) (pattern : Text) :
    splitOn '/' (below directory pattern) = [] :: (directory ++ splitOn '/' pattern) := by
  rw [below, Text.splitOn_cons_self,
    Text.splitOn_joinWith_append hdir.ne_nil fun name hmem => (hdir.names name hmem).no_slash]

theorem anchoredNames_below (hdir : IsPlainDirectory directory) (pattern : Text) :
    anchoredNames (splitOn '/' (below directory pattern)) = directory ++ splitOn '/' pattern := by
  rw [splitOn_below hdir]
  rfl

theorem patternNames_below (hdir : IsPlainDirectory directory) (pattern : Text) :
    patternNames (below directory pattern) = directory ++ namesAfterSlash pattern := by
  rw [patternNames, anchoredNames_below hdir, spelledOut_append (Text.splitOn_ne_nil '/' pattern),
    joinedRuns_append fun name hmem => (hdir.names name hmem).ne_run]
  rfl

theorem asksForDirectory_of_splitOn (front : List Text) {longer : Text}
    (h : splitOn '/' longer = front ++ splitOn '/' pattern) : asksForDirectory longer = asksForDirectory pattern := by
  rw [asksForDirectory, asksForDirectory, h, List.getLast?_append_of_ne_nil _ (Text.splitOn_ne_nil '/' pattern)]

theorem asksForDirectory_below (hdir : IsPlainDirectory directory) (pattern : Text) :
    asksForDirectory (below directory pattern) = asksForDirectory pattern :=
  asksForDirectory_of_splitOn ([] :: directory) (splitOn_below hdir pattern)

/-! ## Rebased patterns -/

/-- The names of a pattern do not change after those of a directory, or the
    pattern ends with more than one slash and applies to no path. -/
def Kept (after alone : List Text) : Prop :=
  after = alone ∨ ∃ name more, name ≠ anyDirectories ∧ alone = doubled name more ∧
    after = anyDirectories :: doubled name more

/-- Names that are kept say of a path what they say by themselves. -/
theorem reading_kept {after alone path : List Text} {weight : Weight} {forDirectory : Bool} (hpath : IsPath path)
    (hkept : Kept after alone) (hne : after ≠ [])
    (hruns : ∀ more, alone = anyDirectories :: more → more.head? ≠ some anyDirectories)
    (hrun : alone = [anyDirectories] → forDirectory = false ∧ weight = .direct)
    (hfeed : '\n' ∈ joinWith ['/'] path → alone ≠ [anyDirectories] ∧ alone ≠ [anyDirectories, ['*']]) :
    (patternOf weight true after).map (reading ('/' :: joinWith ['/'] path)) =
      (shapeOf weight forDirectory alone).map (Shape.reading (joinWith ['/'] path)) := by
  rcases hkept with rfl | ⟨name, more, hname, rfl, rfl⟩
  · exact reading_below hpath hne hruns hrun hfeed
  · exact reading_below_doubled hpath hname more

/-- The blanks at the end of a pattern hide its only slash. -/
def HidesSlash (pattern : Text) : Prop :=
  withoutTrailingBlanks pattern ≠ pattern ∧ asksForDirectory (withoutTrailingBlanks pattern) = true ∧
    (splitOn '/' (withoutTrailingBlanks pattern)).length = 2

theorem anchoredNames_run (names : List Text) :
    anchoredNames (anyDirectories :: names) = anyDirectories :: names := by
  rcases names with _ | ⟨_ | ⟨c, name⟩, _ | ⟨next, names⟩⟩ <;> rfl

/-- A name with more than a slash after it is anchored. -/
theorem anchoredNames_of_ne (hname : name ≠ []) (hnames : names ≠ []) (hslash : names ≠ [[]]) :
    anchoredNames (name :: names) = name :: names := by
  obtain ⟨c, name, rfl⟩ := List.exists_cons_of_ne_nil hname
  rcases names with _ | ⟨_ | ⟨d, next⟩, _ | ⟨third, names⟩⟩
  · exact absurd rfl hnames
  · exact absurd rfl hslash
  all_goals rfl

theorem spelledOut_doubled (name : Text) (more : Nat) :
    spelledOut (name :: List.replicate (more + 2) []) = doubled name more := by
  have hlast : name :: List.replicate (more + 2) [] = (name :: List.replicate (more + 1) []) ++ [[]] := by
    rw [List.replicate_succ', List.cons_append]
  rw [hlast, spelledOut, List.getLast?_concat, if_pos rfl, List.dropLast_concat]
  rfl

theorem joinedRuns_doubled (hname : name ≠ anyDirectories) (more : Nat) :
    joinedRuns (doubled name more) = doubled name more := by
  have hnames : ∀ other ∈ name :: List.replicate (more + 1) [], other ≠ anyDirectories := by
    intro other hmem
    rcases List.mem_cons.1 hmem with rfl | hmem
    · exact hname
    · rw [List.eq_of_mem_replicate hmem]
      decide
  exact joinedRuns_append hnames

theorem kept_slashes (hname : name ≠ []) (more : Nat) :
    Kept (joinedRuns (spelledOut (anyDirectories :: name :: List.replicate more [])))
      (joinedRuns (spelledOut (anchoredNames (name :: List.replicate more [])))) := by
  rw [spelledOut_cons (by simp)]
  by_cases hrun : name = anyDirectories
  · subst hrun
    left
    obtain ⟨rest, hrest⟩ : ∃ rest, spelledOut (anyDirectories :: List.replicate more []) =
        anyDirectories :: rest := by
      cases more with
      | zero => exact ⟨[], rfl⟩
      | succ more => exact ⟨_, spelledOut_cons (by simp)⟩
    rw [anchoredNames_run, hrest, joinedRuns, if_pos ⟨rfl, rfl⟩]
  · rcases more with _ | _ | more
    · left
      obtain ⟨c, name, rfl⟩ := List.exists_cons_of_ne_nil hname
      rw [← spelledOut_cons (by simp)]
      simp [anchoredNames, hrun]
    · left
      obtain ⟨c, name, rfl⟩ := List.exists_cons_of_ne_nil hname
      rw [← spelledOut_cons (by simp)]
      simp [anchoredNames, hrun]
    · right
      refine ⟨name, more, hrun, ?_, ?_⟩
      · rw [anchoredNames_of_ne hname (by simp) (by simp [List.replicate_succ]), spelledOut_doubled, joinedRuns_doubled hrun]
      · have hapart : (doubled name more).head? ≠ some anyDirectories := by simpa [doubled] using hrun
        rw [spelledOut_doubled, joinedRuns, if_neg fun h => hapart h.2, joinedRuns_doubled hrun]

theorem kept_anchored (pattern : Text) : Kept (namesAfterSlash pattern) (patternNames ('/' :: pattern)) := by
  left
  rw [patternNames, Text.splitOn_cons_self]
  rfl

theorem exists_slashes {trimmed blanks : Text} (hpattern : pattern = trimmed ++ blanks)
    (hinner : '/' ∉ pattern.reverse.dropWhile (· == '/')) :
    ∃ name more, '/' ∉ name ∧ trimmed = name ++ List.replicate more '/' := by
  have hslashes : ∃ more, pattern =
      (pattern.reverse.dropWhile (· == '/')).reverse ++ List.replicate more '/' := by
    refine ⟨(pattern.reverse.takeWhile (· == '/')).length, ?_⟩
    have hall : pattern.reverse.takeWhile (· == '/') =
        List.replicate (pattern.reverse.takeWhile (· == '/')).length '/' :=
      List.eq_replicate_of_mem fun c hc => by simpa using List.mem_takeWhile_imp hc
    rw [← List.reverse_replicate, ← hall, ← List.reverse_append, List.takeWhile_append_dropWhile,
      List.reverse_reverse]
  obtain ⟨more, hmore⟩ := hslashes
  rw [hpattern] at hmore
  rcases List.append_eq_append_iff.1 hmore with ⟨rest, hrest, -⟩ | ⟨slashes, htrimmed, hslashes⟩
  · refine ⟨trimmed, 0, fun hmem => hinner ?_, by simp⟩
    rw [← List.mem_reverse, hpattern, hrest]
    simp [hmem]
  · have hreplicate := (List.append_eq_replicate_iff.1 hslashes.symm).2.1
    refine ⟨_, slashes.length, fun hmem => hinner ?_, by rw [← hreplicate]; exact htrimmed⟩
    rw [hpattern]
    exact List.mem_reverse.1 hmem

theorem kept_anywhere {trimmed blanks : Text} (hpattern : pattern = trimmed ++ blanks)
    (hfront : trimmed.head? ≠ some '/') (hne : trimmed ≠ [])
    (hinner : '/' ∉ pattern.reverse.dropWhile (· == '/')) :
    Kept (namesAfterSlash (anyDirectories ++ '/' :: trimmed)) (patternNames trimmed) := by
  obtain ⟨name, more, hname, htrimmed⟩ := exists_slashes hpattern hinner
  have hname_ne : name ≠ [] := by
    rintro rfl
    cases more with
    | zero => exact hne htrimmed
    | succ more => exact hfront (by rw [htrimmed]; rfl)
  have hrun : splitOn '/' anyDirectories = [anyDirectories] := rfl
  rw [namesAfterSlash, patternNames, Text.splitOn_append, hrun, htrimmed,
    Text.splitOn_append_replicate hname]
  exact kept_slashes hname_ne more

theorem kept_inside {trimmed blanks : Text} (hpattern : pattern = trimmed ++ blanks)
    (hblanks : ∀ c ∈ blanks, isBlank c = true) (hfront : trimmed.head? ≠ some '/') (hne : trimmed ≠ [])
    (hinner : '/' ∈ pattern.reverse.dropWhile (· == '/'))
    (hseen : blanks ≠ [] → ¬ (asksForDirectory trimmed = true ∧ (splitOn '/' trimmed).length = 2)) :
    Kept (namesAfterSlash trimmed) (patternNames trimmed) := by
  left
  obtain ⟨c, rest, rfl⟩ := List.exists_cons_of_ne_nil hne
  have hc : c ≠ '/' := by simpa using hfront
  obtain ⟨name, names, hnames⟩ := Text.exists_splitOn_cons hc rest
  have hname : '/' ∉ c :: name := Text.notMem_of_mem_splitOn (by rw [hnames]; simp)
  have hjoin := Text.joinWith_splitOn '/' (c :: rest)
  rw [hnames] at hjoin
  have hseveral : names ≠ [] := by
    rintro rfl
    have hmem : '/' ∈ pattern := List.mem_reverse.1 ((List.dropWhile_suffix _).subset hinner)
    rw [hpattern, List.mem_append] at hmem
    rcases hmem with hmem | hmem
    · rw [← hjoin] at hmem
      exact hname hmem
    · exact absurd (hblanks _ hmem) (by decide)
  have hnotLast : names ≠ [[]] := by
    rintro rfl
    have hnone : blanks = [] := by
      by_contra hblank
      exact hseen hblank ⟨by rw [asksForDirectory, hnames]; rfl, by rw [hnames]; rfl⟩
    have hreverse : pattern.reverse = '/' :: (c :: name).reverse := by
      rw [hpattern, hnone, ← hjoin]
      simp [joinWith]
    rw [hreverse, List.dropWhile_cons_of_pos (by simp)] at hinner
    exact hname (List.mem_reverse.1 ((List.dropWhile_suffix _).subset hinner))
  rw [namesAfterSlash, patternNames, hnames, anchoredNames_of_ne (by simp) hseveral hnotLast]

/-- **What a rebased pattern asks for below its directory.** -/
theorem rebasedPattern_spec (base : Text) (hne : withoutTrailingBlanks pattern ≠ []) (hseen : ¬ HidesSlash pattern) :
    ∃ rest, withoutTrailingBlanks (rebasedPattern base pattern) = '/' :: (base ++ '/' :: rest) ∧
      asksForDirectory rest = asksForDirectory (withoutTrailingBlanks pattern) ∧
      Kept (namesAfterSlash rest) (patternNames (withoutTrailingBlanks pattern)) := by
  obtain ⟨blanks, hpattern, hblanks⟩ := exists_blanks pattern
  have hhead : startsWith ['/'] pattern = true ↔ (withoutTrailingBlanks pattern).head? = some '/' := by
    obtain ⟨c, trimmed, htrimmed⟩ := List.exists_cons_of_ne_nil hne
    rw [htrimmed] at hpattern ⊢
    rw [hpattern]
    by_cases hc : c = '/'
    · subst hc
      simp [startsWith, Text.dropExact?]
    · simp [startsWith, Text.dropExact?, hc, Ne.symm hc]
  rw [rebasedPattern]
  split
  · next hfront =>
    obtain ⟨trimmed, htrimmed⟩ := List.head?_eq_some_iff.1 (hhead.1 hfront)
    refine ⟨trimmed, ?_, ?_, ?_⟩
    · rw [withoutTrailingBlanks_append hne, htrimmed]
      simp
    · rw [htrimmed]
      exact (asksForDirectory_of_splitOn [[]] (by simp)).symm
    · rw [htrimmed]
      exact kept_anchored trimmed
  · next hfront =>
    rw [hhead] at hfront
    split
    · next hinner =>
      refine ⟨withoutTrailingBlanks pattern, ?_, rfl, ?_⟩
      · have hglue : '/' :: base ++ '/' :: pattern = ('/' :: base ++ ['/']) ++ pattern := by simp
        rw [hglue, withoutTrailingBlanks_append hne]
        simp
      · refine kept_inside hpattern hblanks hfront hne (by simpa using hinner) fun hblank h => hseen ⟨?_, h⟩
        intro heq
        rw [heq] at hpattern
        simp [hblank] at hpattern
    · next hinner =>
      refine ⟨anyDirectories ++ '/' :: withoutTrailingBlanks pattern, ?_, ?_, ?_⟩
      · rw [withoutTrailingBlanks_append hne]
        simp [anyDirectories]
      · exact asksForDirectory_of_splitOn [anyDirectories] (Text.splitOn_append _)
      · exact kept_anywhere hpattern hfront hne (by simpa using hinner)

end SiteAudit.Exclude
