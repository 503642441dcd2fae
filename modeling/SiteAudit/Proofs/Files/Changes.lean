/-
  What making directories and writing a file do to a tree.

  * `Tree.Changes directories files`: every location keeps its entry, or holds a
    directory where nothing was, to which a path of the first kind leads, or
    holds a file where nothing or a file was, to which a path of the second kind
    leads.
  * `Changes.grows`: such a tree has grown.
  * `makeDirectories_changes`: making a directory makes missing directories at
    or above the path and does nothing else, even where it fails.
  * `write_changes`: writing fills the file to which the path leads then.
-/
import SiteAudit.Proofs.Files.Growth

namespace SiteAudit.Files

/-- The first path is the second one or stands above it, and is no top. -/
def Path.Upto (above path : Path) : Prop :=
  above.parts ≠ [] ∧ ∃ rest, path = above.below rest

/-- The first path stands above the second one and is no top. -/
def Path.IsAbove (above path : Path) : Prop :=
  above.parts ≠ [] ∧ ∃ rest, rest ≠ [] ∧ path = above.below rest

theorem Path.upto_self {path : Path} (h : path.parts ≠ []) : path.Upto path :=
  ⟨h, [], by simp [below]⟩

theorem Path.Upto.snoc {anchor : Anchor} {parts : List Text} {above : Path} (part : Text)
    (h : above.Upto ⟨anchor, parts⟩) : above.Upto ⟨anchor, parts ++ [part]⟩ := by
  obtain ⟨hne, rest, heq⟩ := h
  obtain ⟨rfl, rfl⟩ : anchor = above.anchor ∧ parts = above.parts ++ rest := by simpa [below] using heq
  exact ⟨hne, rest ++ [part], by simp [below]⟩

theorem Path.Upto.trans {first second third : Path} (h : first.Upto second) (h' : second.Upto third) :
    first.Upto third := by
  obtain ⟨hne, rest, rfl⟩ := h
  obtain ⟨-, more, rfl⟩ := h'
  exact ⟨hne, rest ++ more, by simp [below]⟩

theorem Path.Upto.isAbove {above path : Path} (h : above.Upto path.parent) : above.IsAbove path := by
  obtain ⟨hne, rest, heq⟩ := h
  obtain ⟨hanchor, hparts⟩ : path.anchor = above.anchor ∧ path.parts.dropLast = above.parts ++ rest := by
    simpa [parent, below] using heq
  have hpath : path.parts ≠ [] := by
    intro hnil
    rw [hnil] at hparts
    exact hne (List.append_eq_nil_iff.1 hparts.symm).1
  refine ⟨hne, rest ++ [path.parts.getLast hpath], by simp, ?_⟩
  have hsplit := List.dropLast_concat_getLast hpath
  rw [hparts, List.append_assoc] at hsplit
  rw [below, ← hanchor, hsplit]

namespace Tree

variable {before middle after tree made : Tree} {location : Location} {path : Path}
  {directories files directories' files' : Path → Prop}

/-! ## Changes -/

/-- What may become of a location. -/
inductive ChangedAt (directories files : Path → Prop) (before after : Tree) (location : Location) : Prop
  | kept (same : after.node? location = before.node? location)
  | made (absent : before.node? location = none) (present : after.node? location = some .directory)
      (led : ∃ path, directories path ∧ after.locate? path = some location)
  | filled (free : before.node? location = none ∨ ∃ old, before.node? location = some (.file old))
      (present : ∃ bytes, after.node? location = some (.file bytes))
      (led : ∃ path, files path ∧ after.locate? path = some location)

/-- Every location is kept, made a directory, or filled. -/
structure Changes (directories files : Path → Prop) (before after : Tree) : Prop where
  here : after.here = before.here
  changedAt : ∀ location, ChangedAt directories files before after location

/-- No path at all. -/
def nowhere (_ : Path) : Prop :=
  False

theorem Changes.refl (tree : Tree) : Changes directories files tree tree :=
  ⟨rfl, fun _ => .kept rfl⟩

theorem Changes.mono (h : Changes directories files before after)
    (hd : ∀ path, directories path → directories' path) (hf : ∀ path, files path → files' path) :
    Changes directories' files' before after := by
  refine ⟨h.here, fun location => ?_⟩
  rcases h.changedAt location with hsame | ⟨habsent, hpresent, path, hpath, hled⟩ |
    ⟨hfree, hpresent, path, hpath, hled⟩
  · exact .kept hsame
  · exact .made habsent hpresent ⟨path, hd path hpath, hled⟩
  · exact .filled hfree hpresent ⟨path, hf path hpath, hled⟩

/-- **A changed tree has grown.** -/
theorem Changes.grows (h : Changes directories files before after) : before.Grows after := by
  refine ⟨h.here, fun {location} hdir => ?_, fun {location target} hlink => ?_,
    fun {location bytes} hfile => ?_⟩
  · rcases h.changedAt location with hsame | ⟨habsent, -, -⟩ | ⟨hfree, -, -⟩
    · rw [hsame, hdir]
    · simp [hdir] at habsent
    · simp [hdir] at hfree
  · rcases h.changedAt location with hsame | ⟨habsent, -, -⟩ | ⟨hfree, -, -⟩
    · rw [hsame, hlink]
    · simp [hlink] at habsent
    · simp [hlink] at hfree
  · rcases h.changedAt location with hsame | ⟨habsent, -, -⟩ | ⟨-, hpresent, -⟩
    · exact ⟨bytes, by rw [hsame, hfile]⟩
    · simp [hfile] at habsent
    · exact hpresent

theorem Changes.trans (h : Changes directories files before middle)
    (h' : Changes directories files middle after) : Changes directories files before after := by
  refine ⟨h'.here.trans h.here, fun location => ?_⟩
  rcases h'.changedAt location with hsame' | ⟨habsent', hpresent', hled'⟩ | ⟨hfree', hpresent', hled'⟩
  · rcases h.changedAt location with hsame | ⟨habsent, hpresent, path, hpath, hled⟩ |
      ⟨hfree, ⟨bytes, hbytes⟩, path, hpath, hled⟩
    · exact .kept (hsame'.trans hsame)
    · have hpresent' := hsame'.trans hpresent
      exact .made habsent hpresent' ⟨path, hpath, h'.grows.locate? hled hpresent' trivial⟩
    · have hbytes' := hsame'.trans hbytes
      exact .filled hfree ⟨bytes, hbytes'⟩ ⟨path, hpath, h'.grows.locate? hled hbytes' trivial⟩
  · rcases h.changedAt location with hsame | ⟨-, hpresent, -⟩ | ⟨-, ⟨bytes, hbytes⟩, -⟩
    · exact .made (hsame ▸ habsent') hpresent' hled'
    · simp [habsent'] at hpresent
    · simp [habsent'] at hbytes
  · rcases h.changedAt location with hsame | ⟨-, hpresent, -⟩ | ⟨hfree, -, -⟩
    · exact .filled (hsame ▸ hfree') hpresent' hled'
    · simp [hpresent] at hfree'
    · exact .filled hfree hpresent' hled'

/-- Changes to no file leave every file as it was, and every other file missing. -/
theorem Changes.node?_file_iff {bytes : Text.Utf8.Bytes} (h : Changes directories files before after)
    (hnone : ∀ path, files path → after.locate? path ≠ some location) :
    after.node? location = some (.file bytes) ↔ before.node? location = some (.file bytes) := by
  rcases h.changedAt location with hsame | ⟨habsent, hpresent, -⟩ | ⟨-, -, path, hpath, hled⟩
  · rw [hsame]
  · simp [habsent, hpresent]
  · exact absurd hled (hnone path hpath)

/-! ## Making directories -/

theorem vacancy_eq_ok_iff :
    tree.vacancy path = .ok location ↔ tree.reach path .name = .ok (.vacant location) := by
  rw [vacancy]
  split
  · next h => simp [h]
  · next h => simp [h]
  · next h => simp [h]

theorem parts_ne_nil_of_vacant {purpose : Purpose} (h : tree.reach path purpose = .ok (.vacant location)) :
    path.parts ≠ [] := by
  intro hnil
  have hfollows := (reach_eq_ok_iff.1 h).2
  rw [hnil] at hfollows
  cases hfollows

theorem parts_ne_nil_of_made (h : tree.makeDirectory path = .ok made) : path.parts ≠ [] := by
  obtain ⟨_, hvacancy, -⟩ := map_eq_ok_iff.1 h
  exact parts_ne_nil_of_vacant (vacancy_eq_ok_iff.1 hvacancy)

theorem makeDirectory_changes (h : tree.makeDirectory path = .ok made) :
    Changes (·.Upto path) nowhere tree made := by
  obtain ⟨place, hvacancy, rfl⟩ := map_eq_ok_iff.1 h
  have hreach := vacancy_eq_ok_iff.1 hvacancy
  have habsent : tree.node? place = none := reach_shows hreach
  have hfree : tree.Free place .directory := habsent
  have hput := node?_put hfree.ne_nil tree .directory
  have hpresent : (tree.put place .directory).node? place = some .directory := by rw [hput, if_pos rfl]
  refine ⟨rfl, fun location => ?_⟩
  by_cases hl : location = place
  · subst hl
    have hled := reach_look_of_grows hfree.grows hreach hpresent trivial
    exact .made habsent hpresent ⟨path, Path.upto_self (parts_ne_nil_of_vacant hreach),
      locate?_eq_some_iff.2 ⟨.directory, hled⟩⟩
  · exact .kept (by rw [hput, if_neg hl])

theorem settle_fst (tree : Tree) (path : Path) (fault : Fault) : (tree.settle path fault).1 = tree := by
  rw [settle]
  split
  · rfl
  · split <;> rfl

/-- Making a directory with those above it is making one directory after the other,
    each at the path or above it.  By the parts of the path, the last one first. -/
theorem makeDirectoriesFrom_related (related : Tree → Tree → Prop) (hrefl : ∀ tree, related tree tree)
    (htrans : ∀ {first second third}, related first second → related second third → related first third)
    (anchor : Anchor) : ∀ (above : List Text) (tree : Tree),
    (∀ {path before after}, path.Upto ⟨anchor, above.reverse⟩ → before.makeDirectory path = .ok after →
      related before after) →
    related tree (makeDirectoriesFrom anchor above tree).1
  | [], tree, hmake => by
    rw [makeDirectoriesFrom]
    split
    · next hmade => exact hmake (Path.upto_self (parts_ne_nil_of_made hmade)) hmade
    · split
      · exact hrefl tree
      · rw [settle_fst]
        exact hrefl tree
  | part :: above, tree, hmake => by
    have hself : (⟨anchor, (part :: above).reverse⟩ : Path).Upto ⟨anchor, (part :: above).reverse⟩ :=
      Path.upto_self (by simp)
    have ih := makeDirectoriesFrom_related related hrefl htrans anchor above tree fun {path _ _} hupto hmade =>
      hmake (by simpa using hupto.snoc part) hmade
    rw [makeDirectoriesFrom]
    split
    · next hmade => exact hmake hself hmade
    · split
      · split
        · next made fault hfailed =>
          rw [hfailed] at ih
          exact ih
        · next made habove =>
          rw [habove] at ih
          split
          · next hmade => exact htrans ih (hmake hself hmade)
          · split
            · exact ih
            · rw [settle_fst]
              exact ih
      · rw [settle_fst]
        exact hrefl tree

theorem makeDirectories_cases [Platform] (tree : Tree) (path : Path) :
    tree.makeDirectories path = (tree, .error (.tooDeep (Platform.depthMessage .reports))) ∨
      tree.makeDirectories path = makeDirectoriesFrom path.anchor path.parts.reverse tree := by
  rw [makeDirectories]
  split
  · exact Or.inl rfl
  · exact Or.inr rfl

theorem makeDirectories_related [Platform] (related : Tree → Tree → Prop) (hrefl : ∀ tree, related tree tree)
    (htrans : ∀ {first second third}, related first second → related second third → related first third)
    (tree : Tree) (path : Path)
    (hmake : ∀ {above before after}, above.Upto path → before.makeDirectory above = .ok after →
      related before after) : related tree (tree.makeDirectories path).1 := by
  rcases makeDirectories_cases tree path with hfailed | hmade
  · rw [hfailed]
    exact hrefl tree
  · rw [hmade]
    exact makeDirectoriesFrom_related related hrefl htrans path.anchor path.parts.reverse tree fun hupto hmade =>
      hmake (by simpa using hupto) hmade

/-- **Making a directory changes nothing but missing directories at the path and
    above it.** -/
theorem makeDirectories_changes [Platform] (tree : Tree) (path : Path) :
    Changes (·.Upto path) nowhere tree (tree.makeDirectories path).1 :=
  makeDirectories_related (Changes (·.Upto path) nowhere) .refl .trans tree path fun hupto hmade =>
    (makeDirectory_changes hmade).mono (fun _ hpath => hpath.trans hupto) fun _ hno => hno

/-! ## Writing a file -/

/-- A file is filled where the path leads, if the place is free for it. -/
theorem write_eq_ok {bytes : Text.Utf8.Bytes} (h : tree.write path bytes = .ok after) :
    ∃ reach, tree.reach path .fill = .ok reach ∧ after = tree.put reach.location (.file bytes) ∧
      tree.Free reach.location (.file bytes) := by
  rw [write] at h
  split at h
  · next location old hreach =>
    exact ⟨_, hreach, (Except.ok.inj h).symm, Or.inr ⟨old, reach_shows hreach⟩⟩
  · simp at h
  · next location hreach => exact ⟨_, hreach, (Except.ok.inj h).symm, Or.inl (reach_shows hreach)⟩
  · simp at h

/-- **Writing fills the file to which the path leads then.** -/
theorem write_changes {bytes : Text.Utf8.Bytes} (h : tree.write path bytes = .ok after) :
    Changes nowhere (· = path) tree after ∧
      ∃ location, after.locate? path = some location ∧ after.node? location = some (.file bytes) := by
  obtain ⟨reach, hreach, rfl, hfree⟩ := write_eq_ok h
  have hput := node?_put hfree.ne_nil tree (.file bytes)
  have hpresent : (tree.put reach.location (.file bytes)).node? reach.location = some (.file bytes) := by
    rw [hput, if_pos rfl]
  have hled : (tree.put reach.location (.file bytes)).locate? path = some reach.location :=
    locate?_eq_some_iff.2 ⟨_, reach_look_of_grows hfree.grows hreach hpresent trivial⟩
  refine ⟨⟨rfl, fun location => ?_⟩, reach.location, hled, hpresent⟩
  by_cases hl : location = reach.location
  · subst hl
    exact .filled hfree ⟨bytes, hpresent⟩ ⟨path, rfl, hled⟩
  · exact .kept (by rw [hput, if_neg hl])

end Tree

end SiteAudit.Files
