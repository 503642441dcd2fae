/-
  What stands already.

  * `makeDirectories_ok`: a directory that could be made stands at its path, and
    `makeDirectories_of_isDirectory`: one that stands is left as it is.
  * `exists_write_iff`: a file can be written where a path leads to one, or to a
    place for one, whatever is to stand in it.
  * `Tree.IsWritten`: a file stands at the path and a directory above it.
  * `isWritten_of_write`, `IsWritten.of_grows`, `IsWritten.exists_write`: it is so
    after a file was written, it stays so while the tree grows, and it lets the file
    be written again.
-/
import SiteAudit.Proofs.Files.Changes

namespace SiteAudit.Files.Tree

variable {before after tree made : Tree} {location stop : Location} {path : Path} {fault : Fault} {links : Nat}
  {names : List Text} {node : Node} {bytes : Text.Utf8.Bytes}

/-! ## Directories -/

theorem isDirectory_iff : tree.isDirectory path = true ↔
    ∃ location, tree.reach path .look = .ok (.entry location .directory) := by
  rw [isDirectory, beq_iff_eq, entry?]
  split
  · next place found hreach => simp [hreach]
  · next hno =>
    refine iff_of_false (by simp) ?_
    rintro ⟨place, hreach⟩
    exact hno _ _ hreach

theorem isDirectory_of_grows (hgrows : before.Grows after) (h : before.isDirectory path = true) :
    after.isDirectory path = true := by
  obtain ⟨location, hreach⟩ := isDirectory_iff.1 h
  exact isDirectory_iff.2 ⟨location,
    reach_look_of_grows hgrows hreach (hgrows.directory (reach_shows hreach)) trivial⟩

theorem lookFault?_of_isDirectory (h : tree.isDirectory path = true) : tree.lookFault? path = none := by
  obtain ⟨location, hreach⟩ := isDirectory_iff.1 h
  rw [reach] at hreach
  rw [lookFault?, lookFaultAs?, hreach]

/-- What can be looked at is there, at least as a link. -/
theorem Follows.exists_name (h : Follows tree .look links location names (.entry stop node)) :
    ∃ place found, Follows tree .name links location names (.entry place found) := by
  generalize hend : Reach.entry stop node = reached at h
  induction h with
  | done hnode => exact ⟨_, _, .done hnode⟩
  | stay hdir _ hname _ ih =>
    obtain ⟨place, found, hwalk⟩ := ih hend
    exact ⟨place, found, .stay hdir (by simp [Fits]) hname hwalk⟩
  | up hdir _ _ ih =>
    obtain ⟨place, found, hwalk⟩ := ih hend
    exact ⟨place, found, .up hdir (by simp [Fits]) hwalk⟩
  | vacant => cases hend
  | enter hdir _ hname hnext hplain _ ih =>
    obtain ⟨place, found, hwalk⟩ := ih hend
    exact ⟨place, found, .enter hdir (by simp [Fits]) hname hnext hplain hwalk⟩
  | keepLink _ hpurpose => cases hpurpose
  | @takeLink links location name more target _ hdir _ hname _ hnext _ ih =>
    by_cases hmore : more = []
    · subst hmore
      exact ⟨_, _, .keepLink hdir rfl hname hnext⟩
    · obtain ⟨place, found, hwalk⟩ := ih hend
      exact ⟨place, found, .takeLink hdir (by simp [Fits]) hname (by simp [hmore]) hnext hwalk⟩

theorem makeDirectory_of_isDirectory (h : tree.isDirectory path = true) :
    tree.makeDirectory path = .error (.refused .alreadyThere path.text) := by
  obtain ⟨location, hreach⟩ := isDirectory_iff.1 h
  obtain ⟨hasked, hfollows⟩ := reach_eq_ok_iff.1 hreach
  obtain ⟨place, found, hname⟩ := hfollows.exists_name
  rw [makeDirectory, vacancy, reach_eq_ok_iff.2 ⟨hasked, hname⟩]
  rfl

theorem settle_of_isDirectory (h : tree.isDirectory path = true) (fault : Fault) :
    tree.settle path fault = (tree, .ok ()) := by
  rw [settle, lookFault?_of_isDirectory h]
  exact if_pos h

theorem makeDirectoriesFrom_of_isDirectory (anchor : Anchor) (above : List Text)
    (h : tree.isDirectory ⟨anchor, above.reverse⟩ = true) :
    makeDirectoriesFrom anchor above tree = (tree, .ok ()) := by
  have hthere := makeDirectory_of_isDirectory h
  have hsettle := settle_of_isDirectory h
  cases above with
  | nil =>
    rw [List.reverse_nil] at hthere hsettle
    simp [makeDirectoriesFrom, hthere, hsettle, lacksParent]
  | cons part above => simp only [makeDirectoriesFrom, hthere, hsettle, lacksParent, Bool.false_eq_true, if_false]

theorem missingAbove_of_isDirectory (anchor : Anchor) (above : List Text)
    (h : tree.isDirectory ⟨anchor, above.reverse⟩ = true) : tree.missingAbove anchor above = 0 := by
  have hthere := makeDirectory_of_isDirectory h
  cases above with
  | nil => rfl
  | cons part above => simp only [missingAbove, hthere, lacksParent, Bool.false_eq_true, if_false]

/-- **A directory that stands is left as it is.** -/
theorem makeDirectories_of_isDirectory [Platform] (h : tree.isDirectory path = true) :
    tree.makeDirectories path = (tree, .ok ()) := by
  have hstands : tree.isDirectory ⟨path.anchor, path.parts.reverse.reverse⟩ = true := by rwa [List.reverse_reverse]
  rw [makeDirectories, missingAbove_of_isDirectory _ _ hstands, if_neg (Nat.not_lt_zero _)]
  exact makeDirectoriesFrom_of_isDirectory path.anchor path.parts.reverse hstands

theorem makeDirectory_ok (h : tree.makeDirectory path = .ok made) : made.isDirectory path = true := by
  obtain ⟨place, hvacancy, rfl⟩ := map_eq_ok_iff.1 h
  have hreach := vacancy_eq_ok_iff.1 hvacancy
  have hfree : tree.Free place .directory := reach_shows hreach
  have hpresent : (tree.put place .directory).node? place = some .directory := by
    rw [node?_put hfree.ne_nil, if_pos rfl]
  exact isDirectory_iff.2 ⟨place, reach_look_of_grows hfree.grows hreach hpresent trivial⟩

theorem settle_ok (h : tree.settle path fault = (made, .ok ())) : made.isDirectory path = true := by
  rw [settle] at h
  split at h
  · simp at h
  · split at h
    · next hdirectory =>
      obtain ⟨rfl, -⟩ := Prod.mk.inj h
      exact hdirectory
    · simp at h

theorem makeDirectoriesFrom_ok (anchor : Anchor) (above : List Text)
    (h : makeDirectoriesFrom anchor above tree = (made, .ok ())) :
    made.isDirectory ⟨anchor, above.reverse⟩ = true := by
  cases above with
  | nil =>
    rw [makeDirectoriesFrom] at h
    split at h
    · next hmade =>
      obtain ⟨rfl, -⟩ := Prod.mk.inj h
      exact makeDirectory_ok hmade
    · split at h
      · simp at h
      · exact settle_ok h
  | cons part above =>
    rw [makeDirectoriesFrom] at h
    split at h
    · next hmade =>
      obtain ⟨rfl, -⟩ := Prod.mk.inj h
      exact makeDirectory_ok hmade
    · split at h
      · split at h
        · simp at h
        · split at h
          · next hmade =>
            obtain ⟨rfl, -⟩ := Prod.mk.inj h
            exact makeDirectory_ok hmade
          · split at h
            · simp at h
            · exact settle_ok h
      · exact settle_ok h

/-- **A directory that could be made stands at its path.** -/
theorem makeDirectories_ok [Platform] (h : tree.makeDirectories path = (made, .ok ())) :
    made.isDirectory path = true := by
  rcases makeDirectories_cases tree path with hfailed | hmade
  · simp [hfailed] at h
  · rw [hmade] at h
    have hstands := makeDirectoriesFrom_ok path.anchor path.parts.reverse h
    rwa [List.reverse_reverse] at hstands

/-! ## Files -/

theorem exists_write_iff : (∃ after, tree.write path bytes = .ok after) ↔
    ∃ reach, tree.reach path .fill = .ok reach ∧ tree.Free reach.location (.file []) := by
  constructor
  · rintro ⟨after, h⟩
    obtain ⟨reach, hreach, -, hfree⟩ := write_eq_ok h
    exact ⟨reach, hreach, hfree⟩
  · rintro ⟨reach, hreach, hfree⟩
    have hshown := reach_shows hreach
    rw [write, hreach]
    cases reach with
    | vacant location => exact ⟨_, rfl⟩
    | entry location node =>
      rcases hfree with habsent | ⟨old, hold⟩
      · exact absurd (habsent.symm.trans hshown) (by simp)
      · obtain rfl := Option.some.inj (hold.symm.trans hshown)
        exact ⟨_, rfl⟩

/-- A file stands at the path, and the directory above it. -/
structure IsWritten (tree : Tree) (path : Path) : Prop where
  parent : tree.isDirectory path.parent = true
  file : ∃ location bytes, tree.reach path .fill = .ok (.entry location (.file bytes))

theorem isWritten_of_write (hparent : tree.isDirectory path.parent = true)
    (h : tree.write path bytes = .ok after) : after.IsWritten path := by
  obtain ⟨reach, hreach, rfl, hfree⟩ := write_eq_ok h
  have hpresent : (tree.put reach.location (.file bytes)).node? reach.location = some (.file bytes) := by
    rw [node?_put hfree.ne_nil, if_pos rfl]
  exact ⟨isDirectory_of_grows hfree.grows hparent, reach.location, bytes,
    reach_of_grows hfree.grows hreach hpresent trivial⟩

theorem IsWritten.of_grows (hgrows : before.Grows after) (h : before.IsWritten path) : after.IsWritten path := by
  obtain ⟨location, bytes, hreach⟩ := h.file
  obtain ⟨others, hpresent⟩ := hgrows.file (reach_shows hreach)
  exact ⟨isDirectory_of_grows hgrows h.parent, location, others,
    reach_of_grows hgrows hreach hpresent trivial⟩

/-- **What is written can be written again.** -/
theorem IsWritten.exists_write (h : tree.IsWritten path) (bytes : Text.Utf8.Bytes) :
    ∃ after, tree.write path bytes = .ok after := by
  obtain ⟨location, old, hreach⟩ := h.file
  exact exists_write_iff.2 ⟨_, hreach, Or.inr ⟨old, reach_shows hreach⟩⟩

end SiteAudit.Files.Tree
