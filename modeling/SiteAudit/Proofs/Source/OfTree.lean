/-
  The sources of a site, from its files.

  * `Fits`: no directory below the root, and nothing with a suffix of sources, has
    a path that is too long, and no directory is nested too deep.
  * `discoveryFault?_eq_none_iff`: discovery succeeds exactly then.
  * `ofFile?`: the source that a file is, by its names and its content alone.
  * `ofTree_eq`: the sources of a site are those of its files, in order.
-/
import Mathlib.Data.List.Basic
import SiteAudit.Proofs.Files.Below
import SiteAudit.Proofs.Success
import SiteAudit.Source.Discovery

namespace SiteAudit.Source

open Files
open Text.Utf8 (Bytes)

variable {tree : Tree} {root : Path} {location : Location} {suffixes : List Text}
  {rules : List Exclude.Rule} {names : List Text} {node : Node}

/-! ## What can be looked at -/

theorem hasSuffix_mono {few many : List Text} {path : Path} (hsub : few ⊆ many) (h : hasSuffix few path = true) :
    hasSuffix many path = true := by
  rw [hasSuffix, List.contains_iff_mem] at h ⊢
  exact hsub h

/-- What is looked at when files with some suffixes are looked for: directories,
    and what has such a suffix. -/
def IsLookedAt (suffixes : List Text) (path : Path) (node : Node) : Prop :=
  node = .directory ∨ hasSuffix suffixes path = true

/-- No path is too long that is looked at below the root, and no directory there is
    nested deeper than the errand can go. -/
structure Fits [Platform] (errand : Errand) (tree : Tree) (root : Path) (location : Location)
    (suffixes : List Text) : Prop where
  short : ∀ names node, tree.node? (location ++ names) = some node → IsLookedAt suffixes (root.below names) node →
    exceeds maxPathBytes (root.below names).text = false
  shallow : ∀ names, tree.node? (location ++ names) = some .directory → names.length ≤ Platform.maxDepth errand

instance (suffixes : List Text) (path : Path) (node : Node) : Decidable (IsLookedAt suffixes path node) :=
  inferInstanceAs (Decidable (_ ∨ _))

section
variable [Platform] {errand : Errand}

theorem fits_iff (site : tree.Site root location) : Fits errand tree root location suffixes ↔
    exceeds maxPathBytes root.text = false ∧
      ∀ entry ∈ tree.nodes.toList, location <+: entry.1 → entry.1 ≠ location →
        (IsLookedAt suffixes (root.below (entry.1.drop location.length)) entry.2 →
          exceeds maxPathBytes (root.below (entry.1.drop location.length)).text = false) ∧
        (entry.2 = .directory → (entry.1.drop location.length).length ≤ Platform.maxDepth errand) := by
  have hentries := Tree.forall_below_iff site.directory (P := fun names node =>
    (IsLookedAt suffixes (root.below names) node → exceeds maxPathBytes (root.below names).text = false) ∧
      (node = .directory → names.length ≤ Platform.maxDepth errand))
  have hroot : root.below [] = root := by simp [Path.below]
  simp only [hroot, IsLookedAt, true_or, true_imp_iff, List.length_nil, Nat.zero_le, and_true] at hentries
  refine Iff.trans ?_ hentries
  constructor
  · rintro ⟨hshort, hshallow⟩ names node hnode
    exact ⟨hshort names node hnode, fun hdir => hshallow names (hdir ▸ hnode)⟩
  · intro hall
    exact ⟨fun names node hnode => (hall names node hnode).1, fun names hdir => (hall names _ hdir).2 rfl⟩

/-- **Discovery succeeds exactly if no path that it looks at is too long, and no
    directory is nested too deep.** -/
theorem discoveryFault?_eq_none_iff (site : tree.Site root location) :
    discoveryFault? errand tree root suffixes = none ↔ Fits errand tree root location suffixes := by
  rw [discoveryFault?, Option.or_eq_none_iff, site.listingFault?_eq_none_iff, List.findSome?_eq_none_iff]
  simp only [Tree.openingFault?, Option.bind_none, Option.none_or, accepted, List.mem_filter,
    Tree.mem_pathsBelow_iff site.root]
  constructor
  · rintro ⟨hdirectories, haccepted⟩
    refine ⟨fun names node hnode hlooked => ?_, fun names hdir => (hdirectories names hdir).2⟩
    rw [← site.lookFault?_eq_none_iff hnode]
    rcases hlooked with rfl | hsuffix
    · exact (hdirectories names hnode).1
    · by_cases hne : names = []
      · subst hne
        exact (hdirectories [] (by simpa using site.directory)).1
      · exact haccepted _ ⟨⟨names, node, hne, hnode, rfl⟩, hsuffix⟩
  · rintro ⟨hshort, hshallow⟩
    refine ⟨fun names hdir => ⟨?_, hshallow names hdir⟩, ?_⟩
    · exact (site.lookFault?_eq_none_iff hdir).2 (hshort names _ hdir (Or.inl rfl))
    · rintro path ⟨⟨names, node, -, hnode, rfl⟩, hsuffix⟩
      exact (site.lookFault?_eq_none_iff hnode).2 (hshort names _ hnode (Or.inr hsuffix))

theorem fits_of_ofTree {sources : List Source} (site : tree.Site root location)
    (h : ofTree errand tree root suffixes rules = .ok sources) : Fits errand tree root location suffixes := by
  obtain ⟨paths, hpaths, -⟩ := map_eq_ok_iff.1 h
  rw [← discoveryFault?_eq_none_iff site]
  rw [discover] at hpaths
  split at hpaths
  · cases hpaths
  · assumption

theorem Fits.withoutFiles (hfits : Fits errand tree root location suffixes) (isGivenUp : List Text → Bool) :
    Fits errand (tree.withoutFiles location isGivenUp) root location suffixes where
  short names node hnode := hfits.short names node (Tree.node?_of_withoutFiles hnode)
  shallow names hdir := hfits.shallow names (Tree.node?_of_withoutFiles hdir)

theorem discover_eq (site : tree.Site root location) (hfits : Fits errand tree root location suffixes) :
    discover errand tree root suffixes rules = .ok (selected tree root suffixes rules) := by
  rw [discover, (discoveryFault?_eq_none_iff site).2 hfits]

end

/-! ## Sources as files -/

/-- The path of an entry relative to the root. -/
def relativePath (names : List Text) : Path :=
  ⟨.relative, names⟩

/-- The source that a file is, if it has one of the suffixes, no rule excludes it,
    and its content is a text. -/
def ofFile? (suffixes : List Text) (rules : List Exclude.Rule) (file : List Text × Bytes) : Option Source :=
  if hasSuffix suffixes (relativePath file.1) && !Exclude.excludes rules (relativePath file.1).text then
    (textOfBytes file.2).toOption.map fun text => ⟨(relativePath file.1).text, text⟩
  else none

theorem hasSuffix_below (root : Path) (hne : names ≠ []) :
    hasSuffix suffixes (root.below names) = hasSuffix suffixes (relativePath names) := by
  rw [hasSuffix, hasSuffix, Path.suffix_below root hne, relativePath]

theorem isExcluded_below (rules : List Exclude.Rule) (root : Path) (names : List Text) :
    isExcluded rules root (root.below names) = Exclude.excludes rules (relativePath names).text := by
  rw [isExcluded, Path.relativeTo_below, relativePath]

theorem ofPath?_below (site : tree.Site root location) {bytes : Bytes}
    (hnode : tree.node? (location ++ names) = some (.file bytes))
    (hfits : exceeds maxPathBytes (root.below names).text = false) :
    ofPath? tree root (root.below names) =
      (textOfBytes bytes).toOption.map fun text => ⟨(relativePath names).text, text⟩ := by
  rw [ofPath?, readText, site.read_below hnode hfits, Path.relativeTo_below, relativePath]
  show ((textOfBytes bytes).mapError Unreadable.undecodable).toOption.map _ = _
  cases textOfBytes bytes <;> rfl

/-- **The sources of a site are those of its files.** -/
theorem ofTree_eq [Platform] {errand : Errand} (site : tree.Site root location)
    (hfits : Fits errand tree root location suffixes) : ofTree errand tree root suffixes rules =
      .ok ((tree.filesBelow location).filterMap (ofFile? suffixes rules)) := by
  rw [ofTree, discover_eq site hfits, Except.map, Except.ok.injEq, ofPaths, selected, candidates, accepted,
    Tree.pathsBelow, site.root, Tree.filesBelow]
  simp only [List.filter_filter, List.filterMap_filter, List.filterMap_map, List.filterMap_filterMap]
  refine List.filterMap_congr fun names hnames => ?_
  obtain ⟨hne, node, hnode⟩ := Tree.mem_namesBelow_iff.1 hnames
  simp only [Function.comp_apply, hasSuffix_below root hne, isExcluded_below, hnode]
  by_cases hsuffix : hasSuffix suffixes (relativePath names) = true
  · have hshort := hfits.short names node hnode (Or.inr ((hasSuffix_below root hne).trans hsuffix))
    have hfile := site.isFile_below_iff hnode hshort
    cases node with
    | link target => exact absurd hnode (site.linkFree names target)
    | directory =>
      have : tree.isFile (root.below names) = false := by simpa using hfile
      simp [this]
    | file bytes =>
      have : tree.isFile (root.below names) = true := hfile.2 ⟨bytes, rfl⟩
      simp [this, hsuffix, ofPath?_below site hnode hshort, ofFile?]
  · cases node <;> simp [hsuffix, ofFile?]

end SiteAudit.Source
