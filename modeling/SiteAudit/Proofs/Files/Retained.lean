/-
  The names of what is put into a tree.

  * `Tree.Plain`: a sound tree without links.
  * `Follows.last_of_plain`: in such a tree a walk that does not end at a directory
    ends under the last of its names.
  * `Retains`: plain stays plain, and what bears no name of a new directory or file
    stays as it is.
  * `makeDirectories_retains`, `write_retains`: so making directories and writing
    files put names of their paths, and nothing else.
-/
import SiteAudit.Proofs.Files.Below
import SiteAudit.Proofs.Files.Naming
import SiteAudit.Proofs.Files.Standing

namespace SiteAudit.Files

/-! ## Cut paths -/

/-- No part holds a slash. -/
def Path.IsCut (path : Path) : Prop :=
  ∀ part ∈ path.parts, '/' ∉ part

namespace Path

variable {path other : Path} {name : Text}

theorem name_mem_or_nil (path : Path) : path.name ∈ path.parts ∨ path.name = [] := by
  rw [name]
  cases hlast : path.parts.getLast? with
  | none => exact Or.inr rfl
  | some part => exact Or.inl (List.mem_of_getLast? hlast)

theorem isCut_ofText (s : Text) : (ofText s).IsCut := by
  intro part hpart
  exact Text.notMem_of_mem_splitOn (List.mem_of_mem_filter hpart)

theorem IsCut.of_upto (h : path.IsCut) (hupto : other.Upto path) : other.IsCut := by
  obtain ⟨-, rest, rfl⟩ := hupto
  intro part hpart
  exact h part (List.mem_append_left _ hpart)

theorem cutName_fst_subset (name : Text) : (cutName name).1 ⊆ name := by
  rcases cutName_cases name with hcut | ⟨stem, ending, hcut, hname⟩
  · rw [hcut]
    exact List.Subset.refl _
  · rw [hcut, hname]
    exact List.subset_append_left _ _

theorem IsCut.slash_notMem_stem (h : path.IsCut) : '/' ∉ path.stem := by
  intro hslash
  have hname : '/' ∈ path.name := cutName_fst_subset _ hslash
  rcases name_mem_or_nil path with hmem | hnil
  · exact h _ hmem hname
  · simp [hnil] at hname

theorem IsCut.withName (h : path.IsCut) (hname : '/' ∉ name) (hother : path.withName? name = some other) :
    other.IsCut := by
  obtain ⟨-, rfl⟩ := withName?_eq_some_iff.1 hother
  intro part hpart
  rcases List.mem_append.1 hpart with hpart | hpart
  · exact h part (List.dropLast_subset _ hpart)
  · obtain rfl := List.mem_singleton.1 hpart
    exact hname

end Path

namespace Tree

variable {before middle after tree made : Tree} {location directory : Location} {path : Path} {purpose : Purpose}
  {links : Nat} {names : List Text} {name : Text} {node : Node} {reach : Reach} {bytes : Text.Utf8.Bytes}
  {isDirectoryName isFileName : Text → Prop}

/-! ## Plain trees -/

/-- A tree as it can be on a disk, without links. -/
structure Plain (tree : Tree) : Prop extends Sound tree where
  linkFree : ∀ {location target}, tree.node? location ≠ some (.link target)

theorem plain_iff : tree.Plain ↔
    (∀ entry ∈ tree.nodes.toList, entry.1 ≠ [] →
      (∀ name ∈ entry.1, IsEntryName name) ∧ tree.node? entry.1.dropLast = some .directory) ∧
    ∀ entry ∈ tree.nodes.toList, entry.1 ≠ [] → entry.2.IsPlain := by
  rw [← sound_iff]
  constructor
  · intro hplain
    refine ⟨hplain.toSound, ?_⟩
    rintro ⟨other, node⟩ hentry hne
    have hnode := (node?_eq_some_iff hne).2 hentry
    cases node with
    | link target => exact absurd hnode hplain.linkFree
    | directory => trivial
    | file bytes => trivial
  · rintro ⟨hsound, hall⟩
    refine ⟨hsound, fun {location target} hlink => ?_⟩
    have hne : location ≠ [] := by
      rintro rfl
      simp [node?_nil] at hlink
    exact hall _ ((node?_eq_some_iff hne).1 hlink) hne

instance : Decidable tree.Plain :=
  decidable_of_iff _ plain_iff.symm

theorem Sound.dropLast (h : tree.Sound) (hnode : tree.node? location = some node) :
    tree.node? location.dropLast = some .directory := by
  by_cases hne : location = []
  · subst hne
    rfl
  · rw [← List.dropLast_concat_getLast hne] at hnode
    exact h.placed hnode

/-- A walk that does not end at a directory ends under the last of its names. -/
theorem Follows.last_of_plain (hplain : tree.Plain) (h : Follows tree purpose links location names reach)
    (hend : ∀ place, reach ≠ .entry place .directory) (hne : names ≠ []) :
    ∃ directory name, names.getLast? = some name ∧ IsName name ∧ tree.node? directory = some .directory ∧
      reach.location = directory ++ [name] := by
  -- With no name left the walk stays in the directory that it has come to.
  have hnone {place : Location} {reach : Reach} (hdir : tree.node? place = some .directory)
      (hend : ∀ place, reach ≠ .entry place .directory) : ¬ Follows tree purpose links place [] reach := by
    intro hwalk
    cases hwalk with
    | done hnode =>
      obtain rfl := Option.some.inj (hdir.symm.trans hnode)
      exact hend _ rfl
  induction h with
  | done => exact absurd rfl hne
  | @stay links location name more reach hdir _ _ hwalk ih =>
    by_cases hmore : more = []
    · subst hmore
      exact absurd hwalk (hnone hdir hend)
    · simpa [List.getLast?_cons, List.getLast?_eq_some_getLast hmore] using ih hend hmore hnone
  | @up links location more reach hdir _ hwalk ih =>
    by_cases hmore : more = []
    · subst hmore
      exact absurd hwalk (hnone (hplain.dropLast hdir) hend)
    · simpa [List.getLast?_cons, List.getLast?_eq_some_getLast hmore] using ih hend hmore hnone
  | vacant hdir hname => exact ⟨_, _, rfl, hname, hdir, rfl⟩
  | @enter links location name more node reach hdir _ hname hnext _ hwalk ih =>
    by_cases hmore : more = []
    · subst hmore
      cases hwalk with
      | done => exact ⟨_, _, rfl, hname, hdir, rfl⟩
    · simpa [List.getLast?_cons, List.getLast?_eq_some_getLast hmore] using ih hend hmore hnone
  | keepLink _ _ _ hnext => exact absurd hnext hplain.linkFree
  | takeLink _ _ _ _ hnext => exact absurd hnext hplain.linkFree

theorem reach_last_of_plain (hplain : tree.Plain) (hcut : path.IsCut) (hreach : tree.reach path purpose = .ok reach)
    (hend : ∀ place, reach ≠ .entry place .directory) (hne : path.parts ≠ []) :
    ∃ directory, IsEntryName path.name ∧ path.name ∈ path.parts ∧ tree.node? directory = some .directory ∧
      reach.location = directory ++ [path.name] := by
  obtain ⟨hasked, hwalk⟩ := reach_eq_ok_iff.1 hreach
  obtain ⟨directory, name, hlast, hname, hdir, hlocation⟩ := hwalk.last_of_plain hplain hend hne
  obtain rfl : path.name = name := by rw [Path.name, hlast, Option.getD_some]
  have hmem : path.name ∈ path.parts := List.mem_of_getLast? hlast
  have hnull : '\x00' ∉ path.name := fun hnull =>
    hasked.1 ((Path.mem_text_iff (by decide) (by decide)).2 ⟨_, hmem, hnull⟩)
  exact ⟨directory, ⟨hname, hcut _ hmem, hnull⟩, hmem, hdir, hlocation⟩

/-! ## What is retained -/

/-- Plain stays plain, and what bears no name of a new entry is retained. -/
structure Retains (isDirectoryName isFileName : Text → Prop) (before after : Tree) : Prop where
  plain : after.Plain
  node?_eq : ∀ {location name}, ¬ isDirectoryName name → ¬ isFileName name →
    after.node? (location ++ [name]) = before.node? (location ++ [name])
  file_iff : ∀ {location name bytes}, ¬ isFileName name →
    (after.node? (location ++ [name]) = some (.file bytes) ↔ before.node? (location ++ [name]) = some (.file bytes))

theorem Retains.refl (hplain : tree.Plain) : Retains isDirectoryName isFileName tree tree :=
  ⟨hplain, fun _ _ => rfl, fun _ => Iff.rfl⟩

theorem Retains.trans (h : Retains isDirectoryName isFileName before middle)
    (h' : Retains isDirectoryName isFileName middle after) : Retains isDirectoryName isFileName before after where
  plain := h'.plain
  node?_eq hdirectory hfile := (h'.node?_eq hdirectory hfile).trans (h.node?_eq hdirectory hfile)
  file_iff hfile := (h'.file_iff hfile).trans (h.file_iff hfile)

/-- An entry under a name of its own. -/
structure Named (isDirectoryName isFileName : Text → Prop) (name : Text) (node : Node) : Prop where
  isEntryName : IsEntryName name
  isNew : node = .directory ∧ isDirectoryName name ∨ (∃ bytes, node = .file bytes) ∧ isFileName name

theorem Plain.put (hplain : tree.Plain) (hdir : tree.node? directory = some .directory)
    (hnamed : Named isDirectoryName isFileName name node) (hfree : tree.Free (directory ++ [name]) node) :
    (tree.put (directory ++ [name]) node).Plain := by
  have hput := node?_put hfree.ne_nil tree node
  refine ⟨⟨fun {location found} hfound => ?_, fun {location other found} hfound => ?_⟩,
    fun {location target} hlink => ?_⟩
  · rw [hput] at hfound
    split at hfound
    · next heq =>
      subst heq
      intro part hpart
      rcases List.mem_append.1 hpart with hpart | hpart
      · exact hplain.named hdir part hpart
      · obtain rfl := List.mem_singleton.1 hpart
        exact hnamed.isEntryName
    · exact hplain.named hfound
  · refine hfree.grows.directory ?_
    rw [hput] at hfound
    split at hfound
    · next heq =>
      obtain ⟨rfl, -⟩ := List.append_inj' heq rfl
      exact hdir
    · exact hplain.placed hfound
  · rw [hput] at hlink
    split at hlink
    · obtain rfl := Option.some.inj hlink
      rcases hnamed.isNew with ⟨hnode, -⟩ | ⟨⟨_, hnode⟩, -⟩ <;> cases hnode
    · exact hplain.linkFree hlink

/-- **What is put under a name of its own retains the rest.** -/
theorem retains_put (hplain : tree.Plain) (hdir : tree.node? directory = some .directory)
    (hnamed : Named isDirectoryName isFileName name node) (hfree : tree.Free (directory ++ [name]) node) :
    Retains isDirectoryName isFileName tree (tree.put (directory ++ [name]) node) := by
  have hput := node?_put hfree.ne_nil tree node
  refine ⟨hplain.put hdir hnamed hfree, fun {location other} hdirectory hfile => ?_,
    fun {location other bytes} hfile => ?_⟩
  · rw [hput, if_neg]
    intro heq
    obtain ⟨-, hlast⟩ := List.append_inj' heq rfl
    obtain rfl := List.singleton_inj.1 hlast
    rcases hnamed.isNew with ⟨-, hnew⟩ | ⟨-, hnew⟩
    · exact hdirectory hnew
    · exact hfile hnew
  · rw [hput]
    split
    · next heq =>
      obtain ⟨rfl, hlast⟩ := List.append_inj' heq rfl
      obtain rfl := List.singleton_inj.1 hlast
      rcases hnamed.isNew with ⟨rfl, -⟩ | ⟨-, hnew⟩
      · have habsent : tree.node? (location ++ [other]) = none := hfree
        simp [habsent]
      · exact absurd hnew hfile
    · rfl

/-! ## Changes to plain trees -/

theorem makeDirectory_retains (hplain : tree.Plain) (hcut : path.IsCut)
    (hnames : ∀ part ∈ path.parts, isDirectoryName part) (h : tree.makeDirectory path = .ok made) :
    Retains isDirectoryName isFileName tree made := by
  obtain ⟨place, hvacancy, rfl⟩ := map_eq_ok_iff.1 h
  have hreach := vacancy_eq_ok_iff.1 hvacancy
  obtain ⟨directory, hname, hmem, hdir, rfl⟩ :=
    reach_last_of_plain hplain hcut hreach (by simp) (parts_ne_nil_of_vacant hreach)
  exact retains_put hplain hdir ⟨hname, Or.inl ⟨rfl, hnames _ hmem⟩⟩ (reach_shows hreach)

/-- **Making a directory, and those above it, puts names of its path.** -/
theorem makeDirectories_retains [Platform] (hplain : tree.Plain) (hcut : path.IsCut)
    (hnames : ∀ part ∈ path.parts, isDirectoryName part) :
    Retains isDirectoryName isFileName tree (tree.makeDirectories path).1 := by
  refine makeDirectories_related
    (fun before after => before.Plain → Retains isDirectoryName isFileName before after)
    (fun _ => .refl) (fun h h' hfirst => (h hfirst).trans (h' (h hfirst).plain)) tree path ?_ hplain
  intro above before after hupto hmade hbefore
  refine makeDirectory_retains hbefore (hcut.of_upto hupto) (fun part hpart => hnames part ?_) hmade
  obtain ⟨-, rest, rfl⟩ := hupto
  exact List.mem_append_left _ hpart

/-- **Writing a file puts the name of its path.** -/
theorem write_retains (hplain : tree.Plain) (hcut : path.IsCut) (hname : isFileName path.name)
    (hparent : tree.isDirectory path.parent = true) (h : tree.write path bytes = .ok after) :
    Retains isDirectoryName isFileName tree after := by
  obtain ⟨reach, hreach, rfl, hfree⟩ := write_eq_ok h
  have hend (place : Location) : reach ≠ .entry place .directory := by
    rintro rfl
    have hdir : tree.node? place = some .directory := reach_shows hreach
    simp [Free, Reach.location, hdir] at hfree
  -- A path without a name leads where its parent does, which is a directory.
  have hne : path.parts ≠ [] := by
    intro hnil
    obtain ⟨place, hdir⟩ := isDirectory_iff.1 hparent
    have hparent : path.parent = path := by
      rw [Path.parent, hnil, List.dropLast_nil, ← hnil]
    rw [hparent] at hdir
    have hstart := (reach_eq_ok_iff.1 hreach).2
    have hstart' := (reach_eq_ok_iff.1 hdir).2
    rw [hnil] at hstart hstart'
    cases hstart' with
    | done hnode' =>
      cases hstart with
      | done hnode =>
        obtain rfl := Option.some.inj (hnode'.symm.trans hnode)
        exact hend _ rfl
  obtain ⟨directory, hentry, -, hdir, hlocation⟩ := reach_last_of_plain hplain hcut hreach hend hne
  rw [hlocation] at hfree ⊢
  exact retains_put hplain hdir ⟨hentry, Or.inr ⟨⟨bytes, rfl⟩, hname⟩⟩ hfree

end Tree

end SiteAudit.Files
