/-
  What stands below a root.

  * `Tree.Sound`: trees as they can be on a disk.  Every entry stands in a
    directory, and under a name that an entry can have.
  * `Tree.Site`: a sound tree, a root in it, and no link below the root.
  * `Site.reach_below`: from the root a path leads to every entry below, unless
    the path is too long; then looking at it is a fault (`Site.lookFault?_eq_none_iff`).
  * `mem_filesBelow_iff`, `filesBelow_pairwise`: the files below a root, listed by
    their names.  The names are in strict order, so the list is known from its
    members (`eq_of_mem_iff`).
  * `withoutFiles`: the tree without some of the files below a root.
  * `site_iff`: whether there is a site is checked on the entries that the tree
    lists.
-/
import Mathlib.Data.List.Basic
import SiteAudit.Files.Listing
import SiteAudit.Proofs.Files.Growth
import SiteAudit.Proofs.Text.Names

namespace SiteAudit.Files

open Text.Utf8 (Bytes)

/-! ## Paths below a root -/

variable {root path : Path} {names : List Text} {c : Char}

theorem Path.relativeTo_below (root : Path) (names : List Text) :
    (root.below names).relativeTo root = ⟨.relative, names⟩ := by
  simp [Path.relativeTo, Path.relativeTo?, Path.below]

theorem Path.suffix_below (root : Path) (h : names ≠ []) :
    (root.below names).suffix = Path.suffix ⟨.relative, names⟩ := by
  have hlast : names.getLast? = some (names.getLast h) := List.getLast?_eq_some_getLast h
  simp [Path.suffix, Path.name, Path.below, hlast]

/-- Characters that no anchor has are those of the parts. -/
theorem Path.mem_text_iff (hdot : c ≠ '.') (hslash : c ≠ '/') : c ∈ path.text ↔ ∃ part ∈ path.parts, c ∈ part := by
  rw [Path.text]
  split
  · next h => simp [h.2, hdot]
  · rw [List.mem_append, Text.mem_joinWith_iff (by simpa using hslash)]
    cases path.anchor <;> simp [Anchor.text, hslash]

namespace Tree

variable {tree after : Tree} {location stop : Location} {node : Node} {links : Nat} {more : List Text} {name : Text}
  {reach : Reach} {bytes : Bytes}

/-! ## Sound trees -/

/-- A name that an entry can have. -/
structure IsEntryName (name : Text) : Prop where
  isName : IsName name
  no_slash : '/' ∉ name
  no_null : '\x00' ∉ name

/-- A tree as it can be on a disk. -/
structure Sound (tree : Tree) : Prop where
  named : ∀ {location node}, tree.node? location = some node → ∀ name ∈ location, IsEntryName name
  /-- What an entry stands in is a directory. -/
  placed : ∀ {location name node}, tree.node? (location ++ [name]) = some node →
    tree.node? location = some .directory

theorem Sound.directory_above (h : tree.Sound) : ∀ (names : List Text) {location : Location} {node : Node},
    names ≠ [] → tree.node? (location ++ names) = some node → tree.node? location = some .directory
  | [], _, _, hne, _ => absurd rfl hne
  | [_], _, _, _, hnode => h.placed hnode
  | name :: next :: names, location, node, _, hnode => by
    have hnode' : tree.node? ((location ++ [name]) ++ next :: names) = some node := by simpa using hnode
    exact h.placed (h.directory_above (next :: names) (by simp) hnode')

/-- The root is a directory of a sound tree, and no link stands below it. -/
structure Site (tree : Tree) (root : Path) (location : Location) : Prop where
  sound : tree.Sound
  root : tree.reach root .look = .ok (.entry location .directory)
  linkFree : ∀ names target, tree.node? (location ++ names) ≠ some (.link target)

/-! ## Walks -/

/-- A walk that leads to an entry goes on from there. -/
theorem Follows.append (h : Follows tree .look links location names (.entry stop node))
    (hmore : ∀ links, Follows tree .look links stop more reach) :
    Follows tree .look links location (names ++ more) reach := by
  generalize hend : Reach.entry stop node = reached at h
  induction h with
  | done => cases hend; exact hmore _
  | stay hdir _ hname _ ih => exact .stay hdir fits_look hname (ih hend)
  | up hdir _ _ ih => exact .up hdir fits_look (ih hend)
  | vacant => cases hend
  | enter hdir _ hname hnext hplain _ ih => exact .enter hdir fits_look hname hnext hplain (ih hend)
  | keepLink _ hpurpose => cases hpurpose
  | takeLink hdir _ hname _ hnext _ ih =>
    exact .takeLink hdir fits_look hname (by simp) hnext (by simpa using ih hend)

theorem Follows.start (h : Follows tree .look links location names (.entry stop .directory)) :
    tree.node? location = some .directory := by
  cases h <;> assumption

/-- A walk to a directory meets directories and links only. -/
theorem Follows.of_directories (hdirectory : ∀ {location}, tree.node? location = some .directory →
      after.node? location = some .directory)
    (hlink : ∀ {location target}, tree.node? location = some (.link target) →
      after.node? location = some (.link target))
    (h : Follows tree .look links location names (.entry stop .directory)) :
    Follows after .look links location names (.entry stop .directory) := by
  generalize hend : Reach.entry stop .directory = reached at h ⊢
  induction h with
  | done hnode =>
    cases hend
    exact .done (hdirectory hnode)
  | stay hdir _ hname _ ih => exact .stay (hdirectory hdir) fits_look hname (ih hend)
  | up hdir _ _ ih => exact .up (hdirectory hdir) fits_look (ih hend)
  | vacant => cases hend
  | enter hdir _ hname _ _ hfollows ih =>
    subst hend
    exact .enter (hdirectory hdir) fits_look hname (hdirectory hfollows.start) trivial (ih rfl)
  | keepLink _ hpurpose => cases hpurpose
  | takeLink hdir _ hname _ hnext _ ih =>
    exact .takeLink (hdirectory hdir) fits_look hname (by simp) (hlink hnext) (ih hend)

/-- Looking where a walk leads is a fault exactly if the path is too long. -/
theorem lookFault?_eq_none_iff_of_follows (hnull : '\x00' ∉ path.text)
    (h : Follows tree .look maxLinks (tree.startOf path) path.parts reach) :
    tree.lookFault? path = none ↔ exceeds maxPathBytes path.text = false := by
  by_cases hfits : exceeds maxPathBytes path.text = false
  · have hreach := reach_eq_ok_iff.2 ⟨⟨hnull, hfits⟩, h⟩
    rw [Tree.reach] at hreach
    simp [lookFault?, lookFaultAs?, hreach, hfits]
  · simp only [Bool.not_eq_false] at hfits
    simp [lookFault?, lookFaultAs?, reachAs, hnull, hfits]

/-- In a sound tree a walk takes name after name to what is no link. -/
theorem Sound.follows_below (h : tree.Sound) (hplain : node.IsPlain) (links : Nat) :
    ∀ (names : List Text) {location : Location}, tree.node? (location ++ names) = some node →
    Follows tree .look links location names (.entry (location ++ names) node)
  | [], location, hnode => by
    rw [List.append_nil] at hnode ⊢
    exact .done hnode
  | name :: names, location, hnode => by
    have hnode' : tree.node? ((location ++ [name]) ++ names) = some node := by simpa using hnode
    have hname := h.named hnode name (by simp)
    have hdir := h.directory_above (name :: names) (by simp) hnode
    obtain ⟨next, hnext, hnextPlain⟩ : ∃ next, tree.node? (location ++ [name]) = some next ∧ next.IsPlain := by
      by_cases hlast : names = []
      · subst hlast
        exact ⟨node, by simpa using hnode', hplain⟩
      · exact ⟨.directory, h.directory_above names hlast hnode', trivial⟩
    have hrest := h.follows_below hplain links names hnode'
    exact .enter hdir fits_look hname.isName hnext hnextPlain (by simpa using hrest)

/-- A path that leads to a directory leads on to what is plain below it. -/
theorem Sound.follows_root (h : tree.Sound) (hroot : tree.reach root .look = .ok (.entry location .directory))
    (hplain : node.IsPlain) (hnode : tree.node? (location ++ names) = some node) :
    Follows tree .look maxLinks (tree.startOf root) (root.parts ++ names) (.entry (location ++ names) node) :=
  (reach_eq_ok_iff.1 hroot).2.append fun links => h.follows_below hplain links names hnode

theorem Sound.null_notMem (h : tree.Sound) (hroot : tree.reach root .look = .ok (.entry location .directory))
    (hnode : tree.node? (location ++ names) = some node) : '\x00' ∉ (root.below names).text := by
  have hnull := (reach_eq_ok_iff.1 hroot).1.1
  rw [Path.mem_text_iff (by decide) (by decide)] at hnull ⊢
  rintro ⟨part, hpart, hmem⟩
  rcases List.mem_append.1 hpart with hpart | hpart
  · exact hnull ⟨part, hpart, hmem⟩
  · exact (h.named hnode part (by simp [hpart])).no_null hmem

namespace Site

variable (site : Site tree root location)
include site

theorem directory : tree.node? location = some .directory :=
  reach_shows site.root

theorem isPlain (hnode : tree.node? (location ++ names) = some node) : node.IsPlain := by
  cases node with
  | link target => exact site.linkFree names target hnode
  | directory => trivial
  | file bytes => trivial

theorem follows_root (hnode : tree.node? (location ++ names) = some node) :
    Follows tree .look maxLinks (tree.startOf root) (root.parts ++ names) (.entry (location ++ names) node) :=
  site.sound.follows_root site.root (site.isPlain hnode) hnode

/-! ## Paths to what stands below -/

theorem null_notMem (hnode : tree.node? (location ++ names) = some node) :
    '\x00' ∉ (root.below names).text :=
  site.sound.null_notMem site.root hnode

/-- **A path leads to every entry below the root**, if it is not too long. -/
theorem reach_below (hnode : tree.node? (location ++ names) = some node)
    (hfits : exceeds maxPathBytes (root.below names).text = false) :
    tree.reach (root.below names) .look = .ok (.entry (location ++ names) node) :=
  reach_eq_ok_iff.2 ⟨⟨site.null_notMem hnode, hfits⟩, site.follows_root hnode⟩

theorem read_below (hnode : tree.node? (location ++ names) = some (.file bytes))
    (hfits : exceeds maxPathBytes (root.below names).text = false) :
    tree.read (root.below names) = .ok bytes := by
  rw [Tree.read, site.reach_below hnode hfits]

theorem isFile_below_iff (hnode : tree.node? (location ++ names) = some node)
    (hfits : exceeds maxPathBytes (root.below names).text = false) :
    tree.isFile (root.below names) = true ↔ ∃ bytes, node = .file bytes := by
  rw [isFile, entry?, site.reach_below hnode hfits]
  cases node <;> simp

theorem lookFault?_eq_none_iff (hnode : tree.node? (location ++ names) = some node) :
    tree.lookFault? (root.below names) = none ↔ exceeds maxPathBytes (root.below names).text = false :=
  lookFault?_eq_none_iff_of_follows (site.null_notMem hnode) (site.follows_root hnode)

theorem lookFault?_name_eq_none_iff (hdir : tree.node? (location ++ names) = some .directory)
    (hname : IsEntryName name) : tree.lookFault? (root.below (names ++ [name])) = none ↔
      exceeds maxPathBytes (root.below (names ++ [name])).text = false := by
  cases hnode : tree.node? (location ++ (names ++ [name])) with
  | some node => exact site.lookFault?_eq_none_iff hnode
  | none =>
    have hdirectory := site.null_notMem hdir
    rw [Path.mem_text_iff (by decide) (by decide)] at hdirectory
    have hwalk := (site.follows_root hdir).append fun _ =>
      .vacant hdir hname.isName (by simpa using hnode)
    rw [List.append_assoc] at hwalk
    refine lookFault?_eq_none_iff_of_follows ?_ hwalk
    rw [Path.mem_text_iff (by decide) (by decide)]
    rintro ⟨part, hpart, hnull⟩
    rcases List.mem_append.1 hpart with hpart | hpart
    · exact hdirectory ⟨part, List.mem_append_left _ hpart, hnull⟩
    · rcases List.mem_append.1 hpart with hpart | hpart
      · exact hdirectory ⟨part, List.mem_append_right _ hpart, hnull⟩
      · obtain rfl := List.mem_singleton.1 hpart
        exact hname.no_null hnull

end Site

/-! ## Listings -/

theorem mem_namesBelow_iff : names ∈ tree.namesBelow location ↔
    names ≠ [] ∧ ∃ node, tree.node? (location ++ names) = some node := by
  have hmem {other : Location} (hne : other ≠ []) :
      other ∈ tree.nodes.keys ↔ ∃ node, tree.node? other = some node := by
    rw [Std.TreeMap.mem_keys, Std.TreeMap.mem_iff_isSome_getElem?, Option.isSome_iff_exists, node?,
      if_neg hne]
  simp only [namesBelow, List.mem_map, List.mem_filter, Bool.and_eq_true, decide_eq_true_eq,
    List.isPrefixOf_iff_prefix]
  constructor
  · rintro ⟨other, ⟨hkey, ⟨names, rfl⟩, hlength⟩, rfl⟩
    have hne : names ≠ [] := by
      rintro rfl
      simp at hlength
    rw [List.drop_left]
    exact ⟨hne, (hmem (by simp [hne])).1 hkey⟩
  · rintro ⟨hne, hnode⟩
    refine ⟨location ++ names, ⟨(hmem (by simp [hne])).2 hnode, List.prefix_append _ _, ?_⟩,
      List.drop_left⟩
    have := List.length_pos_iff.2 hne
    simpa using this

theorem Site.listingFault?_eq_none_iff [Platform] {errand : Errand} {sought : Option Text}
    (site : Site tree root location) : tree.listingFault? errand sought root = none ↔
      ∀ names, tree.node? (location ++ names) = some .directory →
        tree.openingFault? sought (root.below names) = none ∧ names.length ≤ Platform.maxDepth errand := by
  rw [Tree.listingFault?, site.root]
  simp only [Option.or_eq_none_iff, List.findSome?_eq_none_iff, Platform.mem_arrange_iff, mem_namesBelow_iff]
  constructor
  · rintro ⟨hroot, hall⟩ names hdir
    by_cases hne : names = []
    · subst hne
      exact ⟨by simpa [Path.below] using hroot, Nat.zero_le _⟩
    · have hmeeting := hall names ⟨hne, _, hdir⟩
      simpa [hdir, Tree.meetingFault?] using hmeeting
  · intro hall
    refine ⟨by simpa [Path.below] using (hall [] (by simpa using site.directory)).1, ?_⟩
    rintro names ⟨-, node, hnode⟩
    rw [hnode, Option.bind_some]
    cases node with
    | file bytes => rfl
    | directory => simpa [Tree.meetingFault?] using hall names hnode
    | link target => exact absurd hnode (site.linkFree names target)

theorem compare_append (location a b : Location) :
    compare (location ++ a) (location ++ b) = compare a b := by
  induction location with
  | nil => rfl
  | cons name location ih => simpa using ih

theorem namesBelow_pairwise (tree : Tree) (location : Location) :
    (tree.namesBelow location).Pairwise fun a b => compare a b = .lt := by
  have hordered : (tree.nodes.keys.filter fun other =>
      location.isPrefixOf other && location.length < other.length).Pairwise
      fun a b => compare a b = .lt := Std.TreeMap.ordered_keys.filter _
  refine List.pairwise_map.2 (hordered.imp_of_mem fun {a b} ha hb hlt => ?_)
  simp only [List.mem_filter, Bool.and_eq_true, List.isPrefixOf_iff_prefix] at ha hb
  obtain ⟨_, rfl⟩ := ha.2.1
  obtain ⟨_, rfl⟩ := hb.2.1
  simpa [compare_append] using hlt

theorem mem_pathsBelow_iff (hroot : tree.reach root .look = .ok (.entry location .directory)) :
    path ∈ tree.pathsBelow root ↔
      ∃ names node, names ≠ [] ∧ tree.node? (location ++ names) = some node ∧ root.below names = path := by
  rw [pathsBelow, hroot]
  simp only [List.mem_map, mem_namesBelow_iff]
  constructor
  · rintro ⟨names, ⟨hne, node, hnode⟩, rfl⟩
    exact ⟨names, node, hne, hnode, rfl⟩
  · rintro ⟨names, node, hne, hnode, rfl⟩
    exact ⟨names, ⟨hne, node, hnode⟩, rfl⟩

theorem pathsBelow_pairwise (tree : Tree) (root : Path) :
    (tree.pathsBelow root).Pairwise fun a b => compare a.parts b.parts = .lt := by
  rw [pathsBelow]
  split
  · next location _ =>
    refine List.pairwise_map.2 ((namesBelow_pairwise tree location).imp fun {a b} hlt => ?_)
    simpa [Path.below, compare_append] using hlt
  · exact .nil

/-- Two lists in strict order with the same members are equal. -/
theorem eq_of_mem_iff {α : Type} {key : α → List Text} {l₁ l₂ : List α}
    (h₁ : l₁.Pairwise fun a b => compare (key a) (key b) = .lt)
    (h₂ : l₂.Pairwise fun a b => compare (key a) (key b) = .lt) (hmem : ∀ a, a ∈ l₁ ↔ a ∈ l₂) :
    l₁ = l₂ := by
  have hne {a b : α} (h : compare (key a) (key b) = .lt) : a ≠ b := by
    rintro rfl
    simp at h
  refine List.Perm.eq_of_pairwise (fun a b _ _ hab hba => ?_) h₁ h₂
    ((List.perm_ext_iff_of_nodup (h₁.imp hne) (h₂.imp hne)).2 hmem)
  exact absurd hba (Std.OrientedCmp.not_lt_of_lt hab)

/-- The files below a location with their content, in the order of their names. -/
def filesBelow (tree : Tree) (location : Location) : List (List Text × Bytes) :=
  (tree.namesBelow location).filterMap fun names =>
    match tree.node? (location ++ names) with
    | some (.file bytes) => some (names, bytes)
    | _ => none

theorem mem_filesBelow_iff (hdir : tree.node? location = some .directory) :
    (names, bytes) ∈ tree.filesBelow location ↔ tree.node? (location ++ names) = some (.file bytes) := by
  rw [filesBelow, List.mem_filterMap]
  constructor
  · rintro ⟨listed, -, h⟩
    split at h
    · next found hnode =>
      obtain ⟨rfl, rfl⟩ := Prod.mk.inj (Option.some.inj h)
      exact hnode
    · cases h
  · intro h
    have hne : names ≠ [] := by
      rintro rfl
      simp [hdir] at h
    exact ⟨names, mem_namesBelow_iff.2 ⟨hne, _, h⟩, by rw [h]⟩

theorem filesBelow_pairwise (tree : Tree) (location : Location) :
    (tree.filesBelow location).Pairwise fun a b => compare a.1 b.1 = .lt := by
  refine List.pairwise_filterMap.2 ((namesBelow_pairwise tree location).imp ?_)
  intro a b hlt a' ha b' hb
  split at ha
  · split at hb
    · obtain rfl := Option.some.inj ha
      obtain rfl := Option.some.inj hb
      exact hlt
    · cases hb
  · cases ha

/-! ## Leaving files out -/

/-- The tree without those files below a location whose names are given up. -/
def withoutFiles (tree : Tree) (location : Location) (isGivenUp : List Text → Bool) : Tree :=
  { tree with
    nodes := tree.nodes.filter fun other node => match node with
      | .file _ => !(location.isPrefixOf other && isGivenUp (other.drop location.length))
      | _ => true }

variable {isGivenUp : List Text → Bool} {other : Location}

/-- Only files go. -/
theorem node?_withoutFiles_of_ne (hfile : ∀ bytes, node ≠ .file bytes) :
    (tree.withoutFiles location isGivenUp).node? other = some node ↔ tree.node? other = some node := by
  by_cases hother : other = []
  · simp [node?, hother]
  · simp only [node?, hother, if_false, withoutFiles, Std.TreeMap.getElem?_filter', Option.filter_eq_some_iff]
    cases node with
    | file bytes => exact absurd rfl (hfile bytes)
    | directory => simp
    | link target => simp

theorem node?_withoutFiles_file :
    (tree.withoutFiles location isGivenUp).node? (location ++ names) = some (.file bytes) ↔
      tree.node? (location ++ names) = some (.file bytes) ∧ isGivenUp names = false := by
  by_cases hother : location ++ names = []
  · simp [node?, hother]
  · have hbelow : location.isPrefixOf (location ++ names) = true :=
      List.isPrefixOf_iff_prefix.2 (List.prefix_append _ _)
    simp [node?, hother, withoutFiles, Option.filter_eq_some_iff, hbelow]

theorem node?_of_withoutFiles (h : (tree.withoutFiles location isGivenUp).node? other = some node) :
    tree.node? other = some node := by
  by_cases hother : other = []
  · simpa [node?, hother] using h
  · simp only [node?, hother, if_false, withoutFiles, Std.TreeMap.getElem?_filter', Option.filter_eq_some_iff]
      at h ⊢
    exact h.1

theorem Site.withoutFiles (site : tree.Site root location) (isGivenUp : List Text → Bool) :
    (tree.withoutFiles location isGivenUp).Site root location where
  sound :=
    { named := fun h => site.sound.named (node?_of_withoutFiles h)
      placed := fun h => (node?_withoutFiles_of_ne (by simp)).2 (site.sound.placed (node?_of_withoutFiles h)) }
  root := by
    obtain ⟨hasked, hfollows⟩ := reach_eq_ok_iff.1 site.root
    exact reach_eq_ok_iff.2 ⟨hasked, hfollows.of_directories (node?_withoutFiles_of_ne (by simp)).2
      (node?_withoutFiles_of_ne (by simp)).2⟩
  linkFree names target h := site.linkFree names target (node?_of_withoutFiles h)

/-! ## Checking a tree -/

instance : DecidablePred IsEntryName := fun name =>
  decidable_of_iff ((¬ (name = [] ∨ name = ['.']) ∧ name ≠ ['.', '.'] ∧ exceeds maxNameBytes name = false) ∧
    '/' ∉ name ∧ '\x00' ∉ name) ⟨fun ⟨h, hslash, hnull⟩ => ⟨h, hslash, hnull⟩, fun ⟨h, hslash, hnull⟩ => ⟨h, hslash, hnull⟩⟩

instance (node : Node) : Decidable node.IsPlain :=
  match node with
  | .file _ => isTrue trivial
  | .directory => isTrue trivial
  | .link _ => isFalse id

theorem node?_eq_some_iff (hother : other ≠ []) :
    tree.node? other = some node ↔ (other, node) ∈ tree.nodes.toList := by
  rw [node?, if_neg hother, Std.TreeMap.mem_toList_iff_getElem?_eq_some]

theorem sound_iff : tree.Sound ↔ ∀ entry ∈ tree.nodes.toList, entry.1 ≠ [] →
    (∀ name ∈ entry.1, IsEntryName name) ∧ tree.node? entry.1.dropLast = some .directory := by
  constructor
  · rintro hsound ⟨other, node⟩ hentry hne
    have hnode := (node?_eq_some_iff hne).2 hentry
    have hlast : tree.node? (other.dropLast ++ [other.getLast hne]) = some node := by
      rwa [List.dropLast_concat_getLast hne]
    exact ⟨hsound.named hnode, hsound.placed hlast⟩
  · intro hall
    refine ⟨fun {location node} hnode => ?_, fun {location name node} hnode => ?_⟩
    · by_cases hne : location = []
      · simp [hne]
      · exact (hall _ ((node?_eq_some_iff hne).1 hnode) hne).1
    · simpa using (hall _ ((node?_eq_some_iff (by simp)).1 hnode) (by simp)).2

/-- What is said of all entries below a directory is said of itself and of those
    that the tree lists. -/
theorem forall_below_iff {P : List Text → Node → Prop} (hdir : tree.node? location = some .directory) :
    (∀ names node, tree.node? (location ++ names) = some node → P names node) ↔
      P [] .directory ∧ ∀ entry ∈ tree.nodes.toList, location <+: entry.1 → entry.1 ≠ location →
        P (entry.1.drop location.length) entry.2 := by
  constructor
  · refine fun hall => ⟨hall [] _ (by simpa using hdir), ?_⟩
    rintro ⟨other, node⟩ hentry ⟨names, rfl⟩ hne
    rw [List.drop_left]
    have hnames : names ≠ [] := fun h => hne (by simp [h])
    exact hall names node ((node?_eq_some_iff (by simp [hnames])).2 hentry)
  · rintro ⟨hself, hall⟩ names node hnode
    by_cases hne : names = []
    · subst hne
      rw [List.append_nil, hdir] at hnode
      obtain rfl := Option.some.inj hnode
      exact hself
    · have := hall (location ++ names, node) ((node?_eq_some_iff (by simp [hne])).1 hnode)
        (List.prefix_append _ _) (by simp [hne])
      rwa [List.drop_left] at this

/-- Whether there is a site shows from the entries that the tree lists. -/
theorem site_iff : tree.Site root location ↔
    tree.reach root .look = .ok (.entry location .directory) ∧
      (∀ entry ∈ tree.nodes.toList, entry.1 ≠ [] →
        (∀ name ∈ entry.1, IsEntryName name) ∧ tree.node? entry.1.dropLast = some .directory) ∧
      ∀ entry ∈ tree.nodes.toList, location <+: entry.1 → entry.1 ≠ location → entry.2.IsPlain := by
  constructor
  · intro site
    have hplain := (forall_below_iff site.directory).1 fun names node hnode => site.isPlain hnode
    exact ⟨site.root, sound_iff.1 site.sound, hplain.2⟩
  · rintro ⟨hroot, hsound, hplain⟩
    have hall := (forall_below_iff (P := fun _ node => node.IsPlain) (reach_shows hroot)).2 ⟨trivial, hplain⟩
    exact ⟨sound_iff.2 hsound, hroot, fun names target hnode => hall names _ hnode⟩

instance : Decidable tree.Sound :=
  decidable_of_iff _ sound_iff.symm

instance : Decidable (tree.Site root location) :=
  decidable_of_iff _ site_iff.symm

end Tree

end SiteAudit.Files
